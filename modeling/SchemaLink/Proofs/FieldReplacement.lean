import SchemaLink.Proofs.DeferredSubstitution
import SchemaLink.Proofs.FieldTypes

/-!
# Replacing the references of fields

A field is granted a deferred type although nothing is known of it yet but its name. Once every
named type exists, the reference is replaced; if the name belongs to a type for the use of the
field, then so does the whole tower, with the layers it had. A type without a reference is for that
use from the start and never replaced.
-/

namespace SchemaLink

/-- A named type has no layers. -/
theorem SchemaType.layers_of_isNamed {g : SchemaType} (h : g.isNamed = true) : g.layers = [] := by
  cases g with
  | named n => rfl
  | deferred name => rfl
  | _ => cases h

namespace FieldUse

variable {use : FieldUse} {t : SchemaType} {types : List (String × SchemaType)}

/-- A type that may be put to a use is deferred nowhere. -/
theorem not_deferred_of_accepts (h : use.accepts t = true) : t.innermost.isDeferred = false := by
  rw [← use.accepts_innermost] at h
  cases hinner : t.innermost with
  | deferred name =>
    rw [hinner] at h
    cases use <;> cases h
  | _ => rfl

/-- A type that suits a use and is not deferred may be put to it. -/
theorem accepts_of_suits (hsuits : use.suits t = true) (h : t.innermost.isDeferred = false) :
    use.accepts t = true := by
  rwa [suits, h, Bool.or_false, accepts_innermost] at hsuits

/-- A table has a named type for the use under a name. -/
def Names (use : FieldUse) (types : List (String × SchemaType)) (name : String) : Prop :=
  ∃ g, types.lookup name = some g ∧ g.isNamed = true ∧ use.accepts g = true

/-- A type that suits a use may be put to it, in all of its layers, when a reference at its bottom
is replaced by a named type for the use. -/
theorem replaceDeferred_of_suits (hsuits : use.suits t = true)
    (hnames : ∀ name, t.innermost = .deferred name → use.Names types name) :
    ∃ u, t.replaceDeferred types = .ok u ∧ use.accepts u = true ∧
      u.innermost.isDeferred = false ∧ u.layers = t.layers := by
  cases hdeferred : t.innermost.isDeferred with
  | true =>
    obtain ⟨name, hinner⟩ := SchemaType.isDeferred_iff.mp hdeferred
    obtain ⟨g, hlookup, hnamed, haccepts⟩ := hnames name hinner
    have hinnermost := t.innermost_withInnermost g
    refine ⟨t.withInnermost g, SchemaType.replaceDeferred_of_deferred hinner hlookup, ?_, ?_, ?_⟩
    · rw [← use.accepts_innermost, hinnermost, use.accepts_innermost, haccepts]
    · rw [hinnermost, not_deferred_of_accepts haccepts]
    · rw [t.layers_withInnermost, SchemaType.layers_of_isNamed hnamed, List.append_nil]
  | false =>
    exact ⟨t, SchemaType.replaceDeferred_of_not_deferred hdeferred,
      accepts_of_suits hsuits hdeferred, hdeferred, rfl⟩

/-- What a field comes to suits its use. -/
theorem suits_of_outcome {field : Option String} {r : Registry} {d : TypeHint}
    (h : (use.demand field).outcome r d = .ok t) : use.suits t = true := by
  obtain ⟨-, -, hmet⟩ := Demand.bind_eq_ok_iff.mp h
  obtain ⟨g, -, hselected⟩ := Demand.bind_eq_ok_iff.mp hmet
  rw [selection_demand] at hselected
  split at hselected
  case isTrue hsuits =>
    obtain rfl := Except.ok.inj hselected
    exact hsuits
  case isFalse => cases hselected

end FieldUse

open TypeHint hiding none

namespace Session

/-- The type of a field for a use. -/
def fieldType (use : FieldUse) (t : TypeHint) (field : Option String) :
    Action AccessError SchemaType :=
  match use with
  | .output => outputType t field
  | .input => inputType t field

/-- A field reads what its demand comes to. -/
theorem fieldType_reads (use : FieldUse) (r : Registry) (t : TypeHint) (field : Option String) :
    (fieldType use t field).Reads r ((use.demand field).outcome r t) := by
  cases use with
  | output => exact access_reads (.output field) r t
  | input => exact access_reads (.input field) r t

/-- **Replacing references keeps the use of a field.** Whatever the registry, a type that is granted
to a field has its reference replaced with success by any table that has a named type for the use of
the field under the name, and is then a type for that use, without a reference and with the layers
it had. A type without a reference is one for that use as it is, and is left alone by every
table. -/
theorem replacement_keeps_field_use (use : FieldUse) {s : Session} {d : TypeHint}
    {field : Option String} {t : SchemaType} (h : (fieldType use d field s).1 = .ok t) :
    (∀ types : List (String × SchemaType),
      (∀ name, t.innermost = .deferred name → use.Names types name) →
        ∃ u, t.replaceDeferred types = .ok u ∧ use.accepts u = true ∧
          u.innermost.isDeferred = false ∧ u.layers = t.layers) ∧
    (t.innermost.isDeferred = false → use.accepts t = true ∧
      ∀ types, t.rebuilt? types = .ok none ∧ t.replaceDeferred types = .ok t) := by
  rw [(fieldType_reads use s.registry d field s rfl).1] at h
  have hsuits := FieldUse.suits_of_outcome h
  refine ⟨fun types hnames => FieldUse.replaceDeferred_of_suits hsuits hnames, fun hnone => ?_⟩
  exact ⟨FieldUse.accepts_of_suits hsuits hnone, fun types =>
    ⟨SchemaType.rebuilt?_of_not_deferred hnone, SchemaType.replaceDeferred_of_not_deferred hnone⟩⟩

/-- A list of optional nodes is granted while nodes are deferred, and is a list of nodes once they
exist. -/
theorem replacement_keeps_field_use_node :
    let node : TypeHint := .union .typing [.forward "Node", .noneType]
    let hint : TypeHint := .generic .builtin Class.Builtin.list [node]
    let type : SchemaType := .list (.deferred "Node")
    let types := [("Node", SchemaType.named ⟨"Node", "Node", .object⟩)]
    (outputType hint (some "next") (new true 0)).1 = .ok type ∧
      FieldUse.output.Names types "Node" ∧
      ∃ u, type.replaceDeferred types = .ok u ∧ u.isOutput = true ∧
        u.innermost.isDeferred = false ∧ u.layers = [.list] := by
  intro node hint type types
  have hint_list : hint.classify = some ⟨.list, node⟩ := rfl
  have node_optional : node.classify = some ⟨.optional, .forward "Node"⟩ := rfl
  have hname : (TypeHint.forward "Node").referenceName = "Node" := by
    rw [referenceName_of_isName rfl]
    exact normalizeName_eq_self (by decide)
  have node_reference :
      (TypeHint.forward "Node").classify = some ⟨.reference, .forward "Node"⟩ := rfl
  have hresolve : (Registry.new true).resolve hint = .ok (some type) := by
    rw [Registry.resolve_of_list_wrapper _ hint_list node_optional,
      Registry.resolve_of_optional_reference _ node_optional node_reference, hname]
    rfl
  have hrepresentable : hint.isRepresentable (some (Registry.new true)) = .ok true := by
    rw [isRepresentable_of_wrapper _ hint_list, isRepresentable_of_wrapper _ node_optional]
    exact isRepresentable_of_isName _ rfl
  have hgranted : (outputType hint (some "next") (new true 0)).1 = .ok type := by
    rw [outputType, (access_reads _ (Registry.new true) hint (new true 0) rfl).1, Demand.outcome,
      Demand.admission, hrepresentable, hresolve]
    rfl
  have hnames : FieldUse.output.Names types "Node" := ⟨_, rfl, rfl, rfl⟩
  refine ⟨hgranted, hnames, (replacement_keeps_field_use .output hgranted).1 types ?_⟩
  rintro name hinner
  obtain rfl := SchemaType.deferred.inj hinner
  exact hnames

end Session

end SchemaLink
