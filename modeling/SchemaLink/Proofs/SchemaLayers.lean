import SchemaLink.Proofs.ResolutionTower
import SchemaLink.Schema.Deferred

/-!
# The layers of a schema type

A schema type is a row of list and non-null layers around an innermost type. What the type may be
used for is decided by the innermost type alone, however many layers there are. Replacing references
puts another type in place of an innermost reference and keeps every layer; a type without one is
left as it is.
-/

namespace SchemaLink

namespace SchemaType

/-- What a layer says about the type inside it. -/
inductive Layer where
  | list
  | nonNull
  deriving DecidableEq, Repr

/-- The layers of a type, the outermost first. -/
def layers : SchemaType → List Layer
  | .list of => .list :: of.layers
  | .nonNull of => .nonNull :: of.layers
  | _ => []

/-- The layers of a type around another innermost type. -/
def withInnermost : SchemaType → SchemaType → SchemaType
  | .list of, u => .list (of.withInnermost u)
  | .nonNull of, u => .nonNull (of.withInnermost u)
  | _, u => u

/-- A type may be the type of a result if its innermost type may. -/
theorem isOutput_innermost (t : SchemaType) : t.innermost.isOutput = t.isOutput := by
  induction t with
  | list of ih => exact ih
  | nonNull of ih => exact ih
  | _ => rfl

/-- A type may be the type of an argument if its innermost type may. -/
theorem isInput_innermost (t : SchemaType) : t.innermost.isInput = t.isInput := by
  induction t with
  | list of ih => exact ih
  | nonNull of ih => exact ih
  | _ => rfl

/-- Only a deferred reference is recognised as one. -/
theorem isDeferred_iff {t : SchemaType} : t.isDeferred = true ↔ ∃ name, t = .deferred name := by
  cases t <;> simp [isDeferred]

/-- The innermost type of a type is not changed by the layers around it. -/
theorem innermost_withInnermost (t u : SchemaType) :
    (t.withInnermost u).innermost = u.innermost := by
  induction t with
  | list of ih => exact ih
  | nonNull of ih => exact ih
  | _ => rfl

/-- The layers of a type stand around those of the type that is put inside. -/
theorem layers_withInnermost (t u : SchemaType) :
    (t.withInnermost u).layers = t.layers ++ u.layers := by
  induction t with
  | list of ih => exact congrArg (List.cons Layer.list) ih
  | nonNull of ih => exact congrArg (List.cons Layer.nonNull) ih
  | _ => rfl

section Towers

variable (lists : Nat) (optional : Bool) (g u : SchemaType)

/-- List layers do not change the innermost type. -/
theorem innermost_listLayers : (listLayers lists g).innermost = g.innermost := by
  induction lists with
  | zero => rfl
  | succ n ih => exact ih

/-- List layers around another innermost type are the list layers around the inner type with that
one. -/
theorem withInnermost_listLayers :
    (listLayers lists g).withInnermost u = listLayers lists (g.withInnermost u) := by
  induction lists with
  | zero => rfl
  | succ n ih => exact congrArg SchemaType.list ih

/-- A tower has the innermost type of the type that it stands around. -/
theorem innermost_tower : (tower lists optional g).innermost = g.innermost := by
  rw [tower, innermost_listLayers]
  cases optional <;> rfl

/-- A tower around another innermost type is the tower around the inner type with that one. -/
theorem withInnermost_tower :
    (tower lists optional g).withInnermost u = tower lists optional (g.withInnermost u) := by
  rw [tower, tower, withInnermost_listLayers]
  cases optional <;> rfl

end Towers

section Replacement

variable {types : List (String × SchemaType)} {t u : SchemaType} {name : String}

/-- A type is rebuilt around what its innermost reference names, with all of its layers. -/
theorem rebuilt?_of_deferred (h : t.innermost = .deferred name)
    (hname : types.lookup name = some u) :
    t.rebuilt? types = .ok (some (t.withInnermost u)) := by
  induction t with
  | list of ih =>
    rw [rebuilt?, ih h]
    rfl
  | nonNull of ih =>
    rw [rebuilt?, ih h]
    rfl
  | deferred n =>
    obtain rfl := SchemaType.deferred.inj h
    rw [rebuilt?, hname]
    rfl
  | _ => cases h

/-- A type without an innermost reference is left as it is. -/
theorem rebuilt?_of_not_deferred (h : t.innermost.isDeferred = false) :
    t.rebuilt? types = .ok none := by
  induction t with
  | list of ih =>
    rw [rebuilt?, ih h]
    rfl
  | nonNull of ih =>
    rw [rebuilt?, ih h]
    rfl
  | deferred n => cases h
  | _ => rfl

/-- Replacing an innermost reference puts what it names inside the layers around it. -/
theorem replaceDeferred_of_deferred (h : t.innermost = .deferred name)
    (hname : types.lookup name = some u) : t.replaceDeferred types = .ok (t.withInnermost u) := by
  rw [replaceDeferred, rebuilt?_of_deferred h hname]
  rfl

/-- Where there is no innermost reference, there is nothing to replace. -/
theorem replaceDeferred_of_not_deferred (h : t.innermost.isDeferred = false) :
    t.replaceDeferred types = .ok t := by
  rw [replaceDeferred, rebuilt?_of_not_deferred h]
  rfl

end Replacement

end SchemaType

end SchemaLink
