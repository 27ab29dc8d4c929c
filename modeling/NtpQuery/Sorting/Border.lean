/-!
# Finding a border

In an arranged list the elements with a property are all in front. How many
there are is found without looking at each: by leaps that double their width,
and by halving what the last leap passed over. In a list that is not arranged
the answer depends on which elements are looked at, so the positions are part
of what is defined here.
-/

namespace NtpQuery

variable {α : Type}

/-- The two ends from which a list can be worked through. -/
inductive Side where
  | front
  | back
  deriving DecidableEq, Repr

/-- The position at which `first` to `last` is halved. Of the two middles of an even
number it is the one farther from the side that work starts from. -/
def Side.middle (side : Side) (first last : Nat) : Nat :=
  match side with
  | .front => first + (last - first) / 2
  | .back => last - 1 - (last - first) / 2

theorem Side.le_middle (side : Side) {first last : Nat} (h : first < last) :
    first ≤ side.middle first last := by
  cases side <;> simp only [Side.middle] <;> omega

theorem Side.middle_lt (side : Side) {first last : Nat} (h : first < last) :
    side.middle first last < last := by
  cases side <;> simp only [Side.middle] <;> omega

/-- The border between the elements with the property and the others, found by
halving the positions from `first` up to `last`. -/
def halve (p : α → Bool) (side : Side) (items : List α) (first last : Nat) : Nat :=
  if _h : first < last then
    let middle := side.middle first last
    match items[middle]? with
    | none => first
    | some a =>
      if p a then halve p side items (middle + 1) last else halve p side items first middle
  else first
termination_by last - first
decreasing_by
  · have := side.le_middle _h
    omega
  · have := side.middle_lt _h
    omega

/-- Leaps ahead while the property holds: the position of the last leap that was
taken, and of the one that was not. -/
def leap (p : α → Bool) (items : List α) (taken next : Nat) : Nat × Nat :=
  if _h : next < items.length then
    if p items[next] then leap p items next (2 * next + 1) else (taken, next)
  else (taken, items.length)
termination_by items.length - next

/-- How many elements with the property are in front. -/
def leading (p : α → Bool) (side : Side) : List α → Nat
  | [] => 0
  | a :: rest =>
    if p a then
      let (taken, next) := leap p (a :: rest) 0 1
      halve p side (a :: rest) (taken + 1) next
    else 0

end NtpQuery
