import SchemaLink.Proofs.Representability

/-!
# Parameterized leaves

An alias that is a leaf is judged by the class that it is an alias of, as far as the kind of the
class goes. The test for protocols, however, only accepts a class itself: an alias of a protocol is
none. So where neither is linked, an alias is as representable as its class unless the class is
representable as a protocol alone, and then the class passes and the alias does not. Wrappers around
the two make no difference.
-/

namespace SchemaLink

namespace TypeHint

section Alias

variable {registry : Option Registry} {flavour : AliasFlavour} {c : Class} {args : List TypeHint}

/-- An unlinked alias is representable by the kind of its class, even if the class is a protocol. -/
theorem isRepresentable_alias (hleaf : (generic flavour c args).classify = Option.none)
    (hfree : (generic flavour c args).isLinked registry = .ok false) :
    (generic flavour c args).isRepresentable registry = .ok c.isRepresentable :=
  isRepresentable_of_unlinked hleaf hfree

/-- An unlinked class is representable as a protocol or by its kind. -/
theorem isRepresentable_cls (hfree : (cls c).isLinked registry = .ok false) :
    (cls c).isRepresentable registry = .ok (c.isProtocol || c.isRepresentable) :=
  isRepresentable_of_unlinked rfl hfree

/-- **A parameterized leaf is as representable as its class, unless the class is a mere protocol.**
Where neither an alias that is a leaf nor its class is linked, with any wrappers around them, the
alias is representable exactly if the class is of a representable kind, and the class also if it is
a protocol. What holds of the alias therefore holds of the class, and the two agree exactly if the
class, should it be a protocol, is of a representable kind as well. -/
theorem alias_agrees_with_class_iff (hleaf : (generic flavour c args).classify = Option.none)
    (hclass : (cls c).isLinked registry = .ok false)
    (halias : (generic flavour c args).isLinked registry = .ok false) {t u : TypeHint}
    (ht : WrappedOf (generic flavour c args) t) (hu : WrappedOf (cls c) u) :
    t.isRepresentable registry = .ok c.isRepresentable ∧
    u.isRepresentable registry = .ok (c.isProtocol || c.isRepresentable) ∧
    (t.isRepresentable registry = .ok true → u.isRepresentable registry = .ok true) ∧
    (t.isRepresentable registry = u.isRepresentable registry ↔
      (c.isProtocol = true → c.isRepresentable = true)) := by
  have halias_ne : generic flavour c args ≠ none := nofun
  have hclass_ne : cls c ≠ none := nofun
  have hargs : t.isRepresentable registry = .ok c.isRepresentable := by
    rw [ht.isRepresentable_eq halias_ne rfl, isRepresentable_alias hleaf halias]
  have hbare : u.isRepresentable registry = .ok (c.isProtocol || c.isRepresentable) := by
    rw [hu.isRepresentable_eq hclass_ne rfl, isRepresentable_cls hclass]
  refine ⟨hargs, hbare, fun h => ?_, ?_⟩
  · rw [hargs] at h
    rw [hbare, Except.ok.inj h, Bool.or_true]
  · rw [hargs, hbare, Except.ok.injEq]
    cases c.isProtocol <;> cases c.isRepresentable <;> simp

/-- Mappings are abstract, but representable by their kind, and so are lists of mappings from text
to integers, with a new registry. -/
theorem alias_agrees_with_class_mapping :
    let mapping : TypeHint := .cls Class.Builtin.mapping
    let counts : TypeHint :=
      .generic .builtin Class.Builtin.mapping [.cls Class.Builtin.str, .cls Class.Builtin.int]
    let list := ListForm.subscript Class.Builtin.list (by decide)
    let registry := some (Registry.new true)
    counts.classify = Option.none ∧ mapping.isLinked registry = .ok false ∧
      counts.isLinked registry = .ok false ∧
      (list.write counts).isRepresentable registry = .ok true ∧
      mapping.isRepresentable registry = .ok true := by
  intro mapping counts list registry
  have hclass : mapping.isLinked registry = .ok false :=
    Registry.contains_new_of_ne true (by simp [Registry.primitives, mapping]; decide) rfl
  have halias : counts.isLinked registry = .ok false :=
    Registry.contains_new_of_ne true (by simp [Registry.primitives, counts]) rfl
  obtain ⟨hlist, hmapping, -⟩ := alias_agrees_with_class_iff (t := list.write counts) rfl hclass
    halias (.list list .itself) .itself
  exact ⟨rfl, hclass, halias, hlist.trans (by decide), hmapping.trans (by decide)⟩

/-- The protocol of absolute values is representable and its alias for integers is not, although the
alias is a leaf that can be hashed and neither of the two is linked. -/
theorem alias_of_protocol_fails :
    let protocol : TypeHint := .cls Class.Builtin.supportsAbs
    let applied : TypeHint :=
      .generic .typing Class.Builtin.supportsAbs [.cls Class.Builtin.int]
    let r := Registry.new true
    applied.classify = Option.none ∧ applied.unhashable? = Option.none ∧
      r.contains protocol = .ok false ∧ r.contains applied = .ok false ∧
      protocol.isRepresentable (some r) = .ok true ∧
      applied.isRepresentable (some r) = .ok false := by
  intro protocol applied r
  have hclass : protocol.isLinked (some r) = .ok false :=
    Registry.contains_new_of_ne true (by simp [Registry.primitives, protocol]; decide) rfl
  have halias : applied.isLinked (some r) = .ok false :=
    Registry.contains_new_of_ne true (by simp [Registry.primitives, applied]) rfl
  exact ⟨rfl, rfl, hclass, halias, (isRepresentable_cls hclass).trans (by decide),
    (isRepresentable_alias rfl halias).trans (by decide)⟩

end Alias

end TypeHint

end SchemaLink
