import SchemaLink.Proofs.LenientResolution

/-!
# Replacing references at the bottom of a type

A schema type is its layers around its innermost type, and replacing references is a substitution
at that one place. Without a reference there nothing is rebuilt, whatever the named types are. A
reference gives way to the type of its name, inside the very layers that stood around it, and a
name that no type has is reported. So a replacement reads one name only. What it yields has nothing
left to replace, unless a reference stands for one of the named types, and it never brings two
non-null layers together.
-/

namespace SchemaLink

namespace SchemaType

/-- A layer around a type. -/
def Layer.around : Layer → SchemaType → SchemaType
  | .list => .list
  | .nonNull => .nonNull

/-- Layers around a type, the outermost first. -/
def withLayers (layers : List Layer) (bottom : SchemaType) : SchemaType :=
  layers.foldr Layer.around bottom

/-- A type is its layers around its innermost type. -/
theorem withLayers_innermost (t : SchemaType) : withLayers t.layers t.innermost = t := by
  induction t with
  | list of ih => exact congrArg SchemaType.list ih
  | nonNull of ih => exact congrArg SchemaType.nonNull ih
  | _ => rfl

/-- Another innermost type stands inside the layers of the type. -/
theorem withInnermost_eq_withLayers (t u : SchemaType) :
    t.withInnermost u = withLayers t.layers u := by
  induction t with
  | list of ih => exact congrArg SchemaType.list ih
  | nonNull of ih => exact congrArg SchemaType.nonNull ih
  | _ => rfl

/-- A type without layers is its own innermost type. -/
theorem innermost_of_layers_eq_nil {t : SchemaType} (h : t.layers = []) : t.innermost = t := by
  conv_rhs => rw [← withLayers_innermost t, h]
  rfl

/-- A type without layers is not a non-null layer. -/
theorem isNonNull_of_layers_eq_nil {t : SchemaType} (h : t.layers = []) : t.isNonNull = false := by
  cases t with
  | nonNull of => cases h
  | _ => rfl

/-- A type without layers is well layered. -/
theorem wellLayered_of_layers_eq_nil {t : SchemaType} (h : t.layers = []) : t.WellLayered := by
  cases t with
  | list of => cases h
  | nonNull of => cases h
  | _ => trivial

/-- Another innermost type is no non-null layer where the type inside was none. -/
theorem isNonNull_withInnermost {t u : SchemaType} (ht : t.isNonNull = false) (hu : u.layers = []) :
    (t.withInnermost u).isNonNull = false := by
  cases t with
  | list of => rfl
  | nonNull of => cases ht
  | _ => exact isNonNull_of_layers_eq_nil hu

/-- A type without layers may be put inside a well-layered type. -/
theorem WellLayered.withInnermost {t u : SchemaType} (ht : t.WellLayered) (hu : u.layers = []) :
    (t.withInnermost u).WellLayered := by
  induction t with
  | list of ih => exact ih ht
  | nonNull of ih => exact ⟨isNonNull_withInnermost ht.1 hu, ih ht.2⟩
  | _ => exact wellLayered_of_layers_eq_nil hu

section Replacement

variable {types others : List (String × SchemaType)} {t u : SchemaType} {name : String}

/-- A name that no type has is reported, through all layers. -/
theorem rebuilt?_of_missing (h : t.innermost = .deferred name) (hname : types.lookup name = none) :
    t.rebuilt? types = .error ⟨name⟩ := by
  induction t with
  | list of ih =>
    rw [rebuilt?, ih h]
    rfl
  | nonNull of ih =>
    rw [rebuilt?, ih h]
    rfl
  | deferred n =>
    obtain rfl := SchemaType.deferred.inj h
    rw [rebuilt?, hname]
  | _ => cases h

/-- Replacing an innermost reference to a name that no type has is refused. -/
theorem replaceDeferred_of_missing (h : t.innermost = .deferred name)
    (hname : types.lookup name = none) : t.replaceDeferred types = .error ⟨name⟩ := by
  rw [replaceDeferred, rebuilt?_of_missing h hname]
  rfl

/-- A replacement reads the type of the innermost name only. -/
theorem replaceDeferred_congr (h : t.innermost = .deferred name)
    (hname : others.lookup name = types.lookup name) :
    t.replaceDeferred others = t.replaceDeferred types := by
  cases htype : types.lookup name with
  | none =>
    rw [replaceDeferred_of_missing h htype, replaceDeferred_of_missing h (hname.trans htype)]
  | some u =>
    rw [replaceDeferred_of_deferred h htype, replaceDeferred_of_deferred h (hname.trans htype)]

/-- What a replacement yields is the type as it was, without a reference, or the type with one of
the named types inside. -/
theorem replaceDeferred_eq_ok (h : t.replaceDeferred types = .ok u) :
    (t.innermost.isDeferred = false ∧ u = t) ∨
      ∃ name bottom, (name, bottom) ∈ types ∧ u = t.withInnermost bottom := by
  cases hdeferred : t.innermost.isDeferred with
  | false =>
    rw [replaceDeferred_of_not_deferred hdeferred] at h
    exact .inl ⟨rfl, (Except.ok.inj h).symm⟩
  | true =>
    obtain ⟨name, hname⟩ := isDeferred_iff.mp hdeferred
    cases htype : types.lookup name with
    | none =>
      rw [replaceDeferred_of_missing hname htype] at h
      cases h
    | some bottom =>
      rw [replaceDeferred_of_deferred hname htype] at h
      obtain ⟨before, after, rfl, -⟩ := List.lookup_eq_some_iff.mp htype
      exact .inr ⟨name, bottom, by simp, (Except.ok.inj h).symm⟩

end Replacement

/-- Replacing the references of a type by named types is a substitution at its bottom. -/
structure ReplacedAtBottom (types : List (String × SchemaType)) (t : SchemaType) : Prop where
  /-- A type without a reference is returned as it is, whatever the named types are. -/
  kept : t.innermost.isDeferred = false →
    ∀ others, t.rebuilt? others = .ok none ∧ t.replaceDeferred others = .ok t
  /-- A reference gives way to the type of its name, inside the same layers. -/
  named : ∀ name bottom, t.innermost = .deferred name → types.lookup name = some bottom →
    t.replaceDeferred types = .ok (withLayers t.layers bottom)
  /-- A name that no type has is reported. -/
  missing : ∀ name, t.innermost = .deferred name → types.lookup name = none →
    t.replaceDeferred types = .error ⟨name⟩
  /-- Only the type of the one name counts. -/
  reads_name : ∀ name, t.innermost = .deferred name →
    ∀ others, others.lookup name = types.lookup name →
      t.replaceDeferred others = t.replaceDeferred types
  /-- The layers stay. -/
  layers_eq : ∀ u, t.replaceDeferred types = .ok u → u.layers = t.layers
  /-- Unless a reference stands for a named type, none is left, and nothing is rebuilt again. -/
  settled : (∀ entry ∈ types, entry.2.isDeferred = false) →
    ∀ u, t.replaceDeferred types = .ok u →
      u.innermost.isDeferred = false ∧
        ∀ others, u.rebuilt? others = .ok none ∧ u.replaceDeferred others = .ok u
  /-- No two non-null layers are brought together. -/
  wellLayered : t.WellLayered → ∀ u, t.replaceDeferred types = .ok u → u.WellLayered

/-- Replacing references is a substitution at the bottom of a type, whenever the named types have no
layers of their own: the layers stay, one name is read, and what is replaced stays replaced. -/
theorem replaceDeferred_substitutes (types : List (String × SchemaType))
    (hbare : ∀ entry ∈ types, entry.2.layers = []) (t : SchemaType) :
    ReplacedAtBottom types t where
  kept h others := ⟨rebuilt?_of_not_deferred h, replaceDeferred_of_not_deferred h⟩
  named name bottom h hname := by
    rw [replaceDeferred_of_deferred h hname, withInnermost_eq_withLayers]
  missing name h hname := replaceDeferred_of_missing h hname
  reads_name name h others hname := replaceDeferred_congr h hname
  layers_eq u h := by
    rcases replaceDeferred_eq_ok h with ⟨-, rfl⟩ | ⟨name, bottom, hmem, rfl⟩
    · rfl
    · rw [layers_withInnermost, hbare _ hmem, List.append_nil]
  settled hsettled u h := by
    have hbottom : u.innermost.isDeferred = false := by
      rcases replaceDeferred_eq_ok h with ⟨hkept, rfl⟩ | ⟨name, bottom, hmem, rfl⟩
      · exact hkept
      · rw [innermost_withInnermost, innermost_of_layers_eq_nil (hbare _ hmem)]
        exact hsettled _ hmem
    exact ⟨hbottom, fun others =>
      ⟨rebuilt?_of_not_deferred hbottom, replaceDeferred_of_not_deferred hbottom⟩⟩
  wellLayered ht u h := by
    rcases replaceDeferred_eq_ok h with ⟨-, rfl⟩ | ⟨name, bottom, hmem, rfl⟩
    · exact ht
    · exact ht.withInnermost (hbare _ hmem)

/-- In a schema with one object type, a list of non-null references to it, itself non-null, becomes
such a list of the object type. -/
theorem replaceDeferred_substitutes_node :
    (∀ entry ∈ [("Node", named ⟨"n", "Node", .object⟩)], entry.2.layers = []) ∧
      (nonNull (list (nonNull (deferred "Node")))).replaceDeferred
          [("Node", named ⟨"n", "Node", .object⟩)] =
        .ok (nonNull (list (nonNull (named ⟨"n", "Node", .object⟩)))) := by
  have hbare : ∀ entry ∈ [("Node", named ⟨"n", "Node", .object⟩)], entry.2.layers = [] := by
    intro entry hmem
    rw [List.mem_singleton.mp hmem]
    rfl
  exact ⟨hbare, (replaceDeferred_substitutes _ hbare _).named "Node" _ rfl rfl⟩

end SchemaType

end SchemaLink
