import SchemaLink.Class.Basic

/-!
# Resolution order

The ancestors of a class are merged from the resolution orders of its bases and the list of the
bases themselves. The next ancestor is the first head that stands in no tail, so that the order of
every base, and the order in which the bases are listed, is kept. A hierarchy in which no head
qualifies has no resolution order.
-/

namespace SchemaLink.Class

/-- The first head of the lists that stands in none of their tails. -/
def nextHead? (lists : List (List ClassBody)) : Option ClassBody :=
  (lists.filterMap List.head?).find? fun head => lists.all fun xs => !xs.tail.contains head

/-- A list without its head, if that is the given body. -/
def dropHead (body : ClassBody) : List ClassBody → List ClassBody
  | [] => []
  | head :: rest => if head = body then rest else head :: rest

/-- One list that keeps the order of all the given ones; the number bounds its length. -/
def mergeOrders : Nat → List (List ClassBody) → Option (List ClassBody)
  | 0, lists => if lists.all List.isEmpty then some [] else none
  | bound + 1, lists =>
    if lists.all List.isEmpty then some []
    else
      match nextHead? lists with
      | none => none
      | some head => (mergeOrders bound (lists.map (dropHead head))).map (head :: ·)

/-- The ancestors of a class with the given bases. -/
def linearize? (bases : List Class) : Option (List ClassBody) :=
  let lists := bases.map order ++ [bases.map body]
  mergeOrders lists.flatten.length lists

end SchemaLink.Class
