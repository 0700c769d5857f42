import SchemaLink.Log.BlockProgram
import SchemaLink.Session.Basic

/-!
# Blocks nest

What is in force at a place of a program can be read off its text: the scope of the innermost block
around the place. Tokens achieve just that. A block that is left finds the variables as its own
entry made them, since every block inside has put them back, so that its tokens bring back what was
in force around it; this holds of failures as of any other end.
-/

namespace SchemaLink

namespace ScopeStack

open Machine

/-- A step, and the open scopes after it. -/
def step (s : ScopeStack) : Step → Answer × ScopeStack
  | .enter scope => (.scope scope, s.enter scope)
  | .leave => (.scope s.leave.current, s.leave)
  | .log keys => (.keys (s.current.enrich keys), s)

/-- The variables hold the scope in force. -/
theorem vars_ofStack (s : ScopeStack) : (ofStack s).vars = s.current := by
  cases s <;> rfl

/-- Leaving the innermost block brings back the machine before it was entered. -/
theorem leave_ofStack (s : ScopeStack) : (ofStack s).leave = ofStack s.leave := by
  cases s <;> rfl

/-- The machine takes every step as the stack does. -/
theorem step_ofStack (s : ScopeStack) (x : Step) :
    (ofStack s).step x = ((s.step x).1, ofStack (s.step x).2) := by
  cases x with
  | enter scope => rfl
  | leave => rw [Machine.step, step, leave_ofStack, vars_ofStack]
  | log keys => rw [Machine.step, step, vars_ofStack]

end ScopeStack

namespace BlockProgram

open ScopeStack

variable {ε : Type}

/-- What a program shows and how it ends, read off its text. The open blocks are those around it. -/
def meaning : BlockProgram ε → ScopeStack → List Point × Except ε Unit
  | .skip, _ => ([], .ok ())
  | .log keys, opened =>
    ([⟨.log keys, .keys (opened.current.enrich keys), opened.current⟩], .ok ())
  | .raise e, _ => ([], .error e)
  | .seq first rest, opened =>
    match meaning first opened with
    | (points, .error e) => (points, .error e)
    | (points, .ok ()) => (points ++ (meaning rest opened).1, (meaning rest opened).2)
  | .block typeName field body, opened =>
    let inside := meaning body (opened.enter ⟨some typeName, field⟩)
    (⟨.enter ⟨some typeName, field⟩, .scope ⟨some typeName, field⟩, ⟨some typeName, field⟩⟩
      :: inside.1 ++ [⟨.leave, .scope opened.current, opened.current⟩], inside.2)
  | .attempt body catches handler, opened =>
    match meaning body opened with
    | (points, .error e) =>
      if catches e then (points ++ (meaning handler opened).1, (meaning handler opened).2)
      else (points, .error e)
    | (points, .ok ()) => (points, .ok ())

/-- A program is executed as it reads, and leaves the variables as it finds them. -/
theorem exec_eq_meaning (p : BlockProgram ε) (opened : ScopeStack) :
    p.exec opened.current = ⟨(p.meaning opened).1, (p.meaning opened).2, opened.current⟩ := by
  induction p generalizing opened with
  | skip => rfl
  | log keys => rfl
  | raise e => rfl
  | seq first rest ihfirst ihrest =>
    rw [exec, ihfirst, meaning]
    rcases meaning first opened with ⟨points, _ | _⟩
    · rfl
    · simp only [ihrest, Execution.after]
  | block typeName field body ih =>
    -- The tokens of the block hold what was in force around it.
    have hbody := ih (opened.enter ⟨some typeName, field⟩)
    rw [current_enter] at hbody
    simp only [exec, meaning, OpenBlock.enter, Scope.setTypeName, Scope.setField, hbody]
    rfl
  | attempt body catches handler ihbody ihhandler =>
    rw [exec, ihbody, meaning]
    rcases meaning body opened with ⟨points, e | _⟩
    · cases hcaught : catches e with
      | true => simp only [hcaught, if_true, ihhandler, Execution.after]
      | false => simp [hcaught]
    · rfl

/-- Taken one by one, the steps show what they are said to show, and all blocks that they open are
left again. -/
def Replays (opened : ScopeStack) (points : List Point) : Prop :=
  ∀ rest, (Machine.ofStack opened).run (points.map Point.step ++ rest) =
    points.map Point.answer ++ (Machine.ofStack opened).run rest

/-- Steps in a row replay if each of them do. -/
theorem Replays.append {opened : ScopeStack} {points points' : List Point}
    (h : Replays opened points) (h' : Replays opened points') :
    Replays opened (points ++ points') := by
  intro rest
  rw [List.map_append, List.append_assoc, h, h', List.map_append, List.append_assoc]

/-- The steps of a program replay. -/
theorem replays_meaning (p : BlockProgram ε) (opened : ScopeStack) :
    Replays opened (p.meaning opened).1 := by
  induction p generalizing opened with
  | skip => exact fun _ => rfl
  | log keys =>
    intro rest
    rw [meaning]
    simp only [List.map_cons, List.map_nil, List.cons_append, List.nil_append, Machine.run,
      step_ofStack, ScopeStack.step]
  | raise e => exact fun _ => rfl
  | seq first later ihfirst ihlater =>
    have hfirst := ihfirst opened
    rw [meaning]
    rcases hmeaning : meaning first opened with ⟨points, _ | _⟩
    · rwa [hmeaning] at hfirst
    · rw [hmeaning] at hfirst
      exact hfirst.append (ihlater opened)
  | block typeName field body ih =>
    intro rest
    rw [meaning]
    simp only [List.map_append, List.map_cons, List.map_nil, List.cons_append, List.append_assoc,
      List.nil_append, Machine.run, step_ofStack, ScopeStack.step, ih _ _, leave_enter]
  | attempt body catches handler ihbody ihhandler =>
    have hbody := ihbody opened
    rw [meaning]
    rcases hmeaning : meaning body opened with ⟨points, e | _⟩
    · rw [hmeaning] at hbody
      cases hcaught : catches e with
      | true => simpa only [hcaught, if_true] using hbody.append (ihhandler opened)
      | false => simpa only [hcaught, Bool.false_eq_true, if_false] using hbody
    · rwa [hmeaning] at hbody

end BlockProgram

namespace Scope

/-- A text is offered under a key if it is known and not empty. -/
def offer (key : String) (value : Option String) : List (String × String) :=
  match value with
  | none => []
  | some s => if s = "" then [] else [(key, s)]

/-- What a scope offers to events. -/
def offers (scope : Scope) : List (String × String) :=
  offer "field" scope.field ++ offer "type_name" scope.typeName

/-- The offered keys that an event does not have. -/
def absent (keys : List (String × Datum)) (offered : List (String × String)) :
    List (String × Datum) :=
  (offered.filter fun key => (keys.lookup key.1).isNone).map fun key => (key.1, .text key.2)

/-- A key is added if its text is offered and the key is absent. -/
theorem addKey_eq (key : String) (value : Option String) (keys : List (String × Datum)) :
    addKey key value keys = keys ++ absent keys (offer key value) := by
  cases value with
  | none => simp [addKey, offer, absent]
  | some s =>
    by_cases hempty : s = ""
    · simp [addKey, offer, absent, hempty]
    · cases hkey : keys.lookup key with
      | none => simp [addKey, offer, absent, hempty, hkey]
      | some d => simp [addKey, offer, absent, hempty, hkey]

/-- A text is offered under the key alone. -/
theorem fst_of_mem_offer {key : String} {value : Option String} {p : String × String}
    (h : p ∈ offer key value) : p.1 = key := by
  cases value with
  | none => cases h
  | some s =>
    rw [offer] at h
    split at h
    · cases h
    · rw [List.mem_singleton.mp h]

/-- The field is added before the type, and does not stand in its way. -/
theorem lookup_addKey_field (value : Option String) (keys : List (String × Datum)) :
    (addKey "field" value keys).lookup "type_name" = keys.lookup "type_name" := by
  have hoffered : (absent keys (offer "field" value)).lookup "type_name" = none := by
    rw [List.lookup_eq_none_iff]
    intro key hkey
    obtain ⟨p, hp, rfl⟩ := List.mem_map.mp hkey
    simp [fst_of_mem_offer (List.mem_filter.mp hp).1]
  rw [addKey_eq, List.lookup_append, hoffered, Option.or_none]

/-- **An event keeps its keys in a scope, and gains what the scope offers and it does not have.** -/
theorem enrich_eq (scope : Scope) (keys : List (String × Datum)) :
    scope.enrich keys = keys ++ absent keys scope.offers := by
  have htype : absent (addKey "field" scope.field keys) (offer "type_name" scope.typeName) =
      absent keys (offer "type_name" scope.typeName) := by
    refine congrArg (List.map _) (List.filter_congr fun p hp => ?_)
    rw [fst_of_mem_offer hp, lookup_addKey_field]
  rw [enrich, addKey_eq, htype, addKey_eq, offers, absent, absent, absent, List.filter_append,
    List.map_append, List.append_assoc]

end Scope

/-- An action within a scope is a block around the action. -/
theorem Action.within_eq_block {ε α : Type} (scope : Scope) (act : Action ε α) (s : Session) :
    Action.within scope act s =
      let (opened, inside) := OpenBlock.enter scope s.scope
      let (result, t) := act { s with scope := inside }
      (result, { t with scope := opened.leave t.scope }) := rfl

namespace BlockProgram

variable {ε : Type}

/-- **Blocks nest.** Wherever a program starts, each of its steps shows what is in force by the text
of the program: the scope of the innermost block around it, or of the block that was just entered or
left. However the program ends, and so whichever failures were raised and caught on the way, the
variables are left as they were found. The steps taken one by one on the machine show the same. An
event that is sent keeps its keys and gains those that the scope in force offers and that it does
not have. -/
theorem blocks_nest (p : BlockProgram ε) (opened : ScopeStack) :
    p.exec opened.current = ⟨(p.meaning opened).1, (p.meaning opened).2, opened.current⟩ ∧
      opened.run ((p.meaning opened).1.map Point.step) = (p.meaning opened).1.map Point.answer ∧
      ∀ (scope : Scope) (keys : List (String × Datum)),
        scope.enrich keys = keys ++ Scope.absent keys scope.offers := by
  refine ⟨p.exec_eq_meaning opened, ?_, Scope.enrich_eq⟩
  have hreplays := p.replays_meaning opened []
  simpa [ScopeStack.run, ScopeStack.Machine.run] using hreplays

/-- A block without a field hides the field around it, and a failure leaves both blocks. -/
example (e : ε) : let p := block "A" (some "f") (block "B" none (raise e))
    (p.meaning []).1.map Point.inForce =
      [⟨some "A", some "f"⟩, ⟨some "B", none⟩, ⟨some "A", some "f"⟩, .outside] := rfl

end BlockProgram

end SchemaLink
