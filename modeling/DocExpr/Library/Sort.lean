/-! Sorting by a comparator that may fail or contradict itself. The list is halved, both halves are
sorted, and the sorted halves are merged; an item of the right half goes first only if it is less
than the one of the left half, so equal items keep their order. -/
namespace DocExpr.Library

section
variable {α : Type} {m : Type → Type} [Monad m]

/-- Merges two sorted lists. Every round takes one item, so `fuel` need not exceed the number of
items. -/
def mergeLoop (compare : α → α → m Ordering) : Nat → List α → List α → m (List α)
  | 0, left, right => pure (left ++ right)
  | fuel + 1, left, right =>
    match left, right with
    | [], right => pure right
    | left, [] => pure left
    | l :: left, r :: right => do
      match ← compare r l with
      | .lt => return r :: (← mergeLoop compare fuel (l :: left) right)
      | _ => return l :: (← mergeLoop compare fuel left (r :: right))

/-- Sorts a list of at most `2 ^ fuel` items. -/
def sortLoop (compare : α → α → m Ordering) : Nat → List α → m (List α)
  | 0, xs => pure xs
  | fuel + 1, xs =>
    if xs.length ≤ 1 then pure xs
    else do
      let half := xs.length / 2
      let left ← sortLoop compare fuel (xs.take half)
      let right ← sortLoop compare fuel (xs.drop half)
      mergeLoop compare xs.length left right

def mergeSort (compare : α → α → m Ordering) (xs : List α) : m (List α) :=
  sortLoop compare xs.length xs

end
end DocExpr.Library
