/-!
# Sorting

Lists are sorted by insertion, which keeps the order of equal elements.
-/

namespace NtpQuery

variable {α : Type}

/-- Puts an element in front of the first one that it does not follow. -/
def insertSorted (before : α → α → Bool) (a : α) : List α → List α
  | [] => [a]
  | b :: rest => if before b a then b :: insertSorted before a rest else a :: b :: rest

/-- The elements in ascending order; `before a b` must hold of equal elements. -/
def sortBy (before : α → α → Bool) (items : List α) : List α :=
  items.foldl (fun sorted a => insertSorted before a sorted) []

/-- The middle of a list: one element of an odd number, two of an even one. -/
inductive Middle (α : Type) where
  | one (a : α)
  | two (a b : α)

def middle? (items : List α) : Option (Middle α) :=
  let half := items.length / 2
  if items.length % 2 = 1 then (items[half]?).map .one
  else do
    let a ← items[half - 1]?
    let b ← items[half]?
    pure (.two a b)

end NtpQuery
