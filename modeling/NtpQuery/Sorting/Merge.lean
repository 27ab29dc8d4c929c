import NtpQuery.Sorting.Border

/-!
# Merging two runs

Two runs are merged by taking the lesser of their first elements, again and
again. When one run has given many elements in a row, all of its elements that
come before the first of the other are taken at a time, until that no longer
pays. How many in a row are many is adapted: fewer for each time that it pays,
more when it ceases to.

A merge can also work from the back, on both runs turned around and with the
order turned around. Of the two runs one is held and one is passed: the last
element of the held run is known to belong at the end, so once it is the only
one left, the merge is over.
-/

namespace NtpQuery

variable {α : Type}

structure Merging (α : Type) where
  /-- What was taken, newest first. -/
  takenRev : List α := []
  held : List α
  passed : List α
  deriving Repr

namespace Merging

def isOver (merging : Merging α) : Bool :=
  merging.passed.isEmpty || merging.held.length ≤ 1

/-- What was taken, and behind it what is left. -/
def result (merging : Merging α) : List α :=
  merging.takenRev.reverse ++ merging.passed ++ merging.held

/-- How many elements are left. -/
def size (merging : Merging α) : Nat :=
  merging.held.length + merging.passed.length

/-- Takes one element of the held run. -/
def takeHeld (merging : Merging α) : Merging α :=
  match merging.held with
  | [] => merging
  | a :: rest => { merging with takenRev := a :: merging.takenRev, held := rest }

/-- Takes one element of the passed run. -/
def takePassed (merging : Merging α) : Merging α :=
  match merging.passed with
  | [] => merging
  | b :: rest => { merging with takenRev := b :: merging.takenRev, passed := rest }

/-- Takes as many elements of the held run. -/
def takeHeldMany (count : Nat) (merging : Merging α) : Merging α :=
  { merging with
    takenRev := (merging.held.take count).reverse ++ merging.takenRev
    held := merging.held.drop count }

/-- Takes as many elements of the passed run. -/
def takePassedMany (count : Nat) (merging : Merging α) : Merging α :=
  { merging with
    takenRev := (merging.passed.take count).reverse ++ merging.takenRev
    passed := merging.passed.drop count }

theorem size_takeHeld_le (merging : Merging α) : merging.takeHeld.size ≤ merging.size := by
  unfold takeHeld
  split <;> simp_all [size]

theorem size_takePassed_le (merging : Merging α) : merging.takePassed.size ≤ merging.size := by
  unfold takePassed
  split <;> simp_all [size]

/-- As long as a merge is not over, the passed run has an element to take. -/
theorem size_takePassed_lt {merging : Merging α} (h : merging.isOver = false) :
    merging.takePassed.size < merging.size := by
  unfold takePassed
  split <;> simp_all [size, isOver]

/-- As long as a merge is not over, the held run has an element to take. -/
theorem size_takeHeld_lt {merging : Merging α} (h : merging.isOver = false) :
    merging.takeHeld.size < merging.size := by
  unfold takeHeld
  split <;> simp_all [size, isOver]

theorem size_takeHeldMany_le (count : Nat) (merging : Merging α) :
    (merging.takeHeldMany count).size ≤ merging.size := by
  simp [takeHeldMany, size]

theorem size_takePassedMany_le (count : Nat) (merging : Merging α) :
    (merging.takePassedMany count).size ≤ merging.size := by
  simp [takePassedMany, size]

/-- Whether the first element of the passed run comes before that of the held one. -/
def passedFirst (less : α → α → Bool) (merging : Merging α) : Bool :=
  match merging.passed, merging.held with
  | b :: _, a :: _ => less b a
  | _, _ => false

/-- Takes elements one by one until the merge is over or one run has given `many` in
a row. The counts are those of the elements given in a row so far. -/
def oneByOne (less : α → α → Bool) (many : Nat) (byHeld byPassed : Nat)
    (merging : Merging α) : Merging α :=
  if h : merging.isOver = true then merging
  else if merging.passedFirst less then
    if many ≤ byPassed + 1 then merging.takePassed
    else oneByOne less many 0 (byPassed + 1) merging.takePassed
  else if many ≤ byHeld + 1 then merging.takeHeld
  else oneByOne less many (byHeld + 1) 0 merging.takeHeld
termination_by merging.size
decreasing_by
  · exact size_takePassed_lt (by simpa using h)
  · exact size_takeHeld_lt (by simpa using h)

/-- Takes all elements of the held run up to the first one of the passed run, and
that one. Also tells how many they were. -/
def leapHeld (less : α → α → Bool) (side : Side) (merging : Merging α) : Merging α × Nat :=
  match merging.passed with
  | [] => (merging, 0)
  | b :: _ =>
    let count := leading (fun a => !less b a) side merging.held
    let leapt := merging.takeHeldMany count
    (if leapt.isOver then leapt else leapt.takePassed, count)

/-- Takes all elements of the passed run up to the first one of the held run, and
that one. Also tells how many they were. -/
def leapPassed (less : α → α → Bool) (side : Side) (merging : Merging α) : Merging α × Nat :=
  match merging.held with
  | [] => (merging, 0)
  | a :: _ =>
    let count := leading (fun b => less b a) side merging.passed
    let leapt := merging.takePassedMany count
    (if leapt.isOver then leapt else leapt.takeHeld, count)

theorem size_leapPassed_le (less : α → α → Bool) (side : Side) (merging : Merging α) :
    (merging.leapPassed less side).1.size ≤ merging.size := by
  unfold leapPassed
  split
  · simp
  · dsimp only
    split
    · exact size_takePassedMany_le _ _
    · exact Nat.le_trans (size_takeHeld_le _) (size_takePassedMany_le _ _)

/-- A leap that does not end the merge takes an element. -/
theorem size_leapHeld_lt {less : α → α → Bool} {side : Side} {merging : Merging α}
    (before : merging.isOver = false) (behind : (merging.leapHeld less side).1.isOver = false) :
    (merging.leapHeld less side).1.size < merging.size := by
  unfold leapHeld at behind ⊢
  split at behind
  · simp_all [isOver]
  · dsimp only at behind ⊢
    split at behind
    · simp_all
    · rename_i h
      rw [if_neg h]
      exact Nat.lt_of_lt_of_le (size_takePassed_lt (by simpa using h)) (size_takeHeldMany_le _ _)

/-- A leap in each run, in the one farther from where the work ends first. The counts
are those of both leaps. -/
def leapBoth (less : α → α → Bool) (side : Side) (merging : Merging α) :
    Merging α × Nat × Nat :=
  match side with
  | .front =>
    let (first, count) := merging.leapHeld less side
    if first.isOver then (first, count, 0)
    else
      let (second, other) := first.leapPassed less side
      (second, count, other)
  | .back =>
    let (first, count) := merging.leapPassed less side
    if first.isOver then (first, count, 0)
    else
      let (second, other) := first.leapHeld less side
      (second, count, other)

theorem size_leapBoth_lt {less : α → α → Bool} {side : Side} {merging : Merging α}
    (before : merging.isOver = false) (behind : (merging.leapBoth less side).1.isOver = false) :
    (merging.leapBoth less side).1.size < merging.size := by
  cases side
  · simp only [leapBoth] at behind ⊢
    split at behind
    · simp_all
    · rename_i h
      rw [if_neg h]
      exact Nat.lt_of_le_of_lt (size_leapPassed_le _ _ _)
        (size_leapHeld_lt before (by simpa using h))
  · simp only [leapBoth] at behind ⊢
    split at behind
    · simp_all
    · rename_i h
      rw [if_neg h]
      exact Nat.lt_of_lt_of_le (size_leapHeld_lt (by simpa using h) behind)
        (size_leapPassed_le _ _ _)

/-- How many elements in a row make leaping pay. -/
def worthLeaping : Nat := 7

/-- Leaps as long as it pays. The second result says how many in a row are many
after that. -/
def leaping (less : α → α → Bool) (side : Side) (many : Nat) (merging : Merging α) :
    Merging α × Nat :=
  let leapt := merging.leapBoth less side
  if h : merging.isOver = true ∨ leapt.1.isOver = true then (leapt.1, many)
  else if worthLeaping ≤ leapt.2.1 || worthLeaping ≤ leapt.2.2 then
    leaping less side (max 1 (many - 1)) leapt.1
  else (leapt.1, many + 1)
termination_by merging.size
decreasing_by
  simp only [not_or, Bool.not_eq_true] at h
  exact size_leapBoth_lt h.1 h.2

theorem size_oneByOne_le (less : α → α → Bool) (many byHeld byPassed : Nat)
    (merging : Merging α) :
    (merging.oneByOne less many byHeld byPassed).size ≤ merging.size := by
  fun_induction oneByOne less many byHeld byPassed merging with
  | case1 => exact Nat.le_refl _
  | case2 merging => exact size_takePassed_le _
  | case3 _ _ merging _ _ _ ih => exact Nat.le_trans ih (size_takePassed_le _)
  | case4 merging => exact size_takeHeld_le _
  | case5 _ _ merging _ _ _ ih => exact Nat.le_trans ih (size_takeHeld_le _)

theorem size_leaping_lt {less : α → α → Bool} {side : Side} {many : Nat} {merging : Merging α}
    (before : merging.isOver = false)
    (behind : (merging.leaping less side many).1.isOver = false) :
    (merging.leaping less side many).1.size < merging.size := by
  fun_induction leaping less side many merging with
  | case1 many merging leapt h => simp_all
  | case2 many merging leapt h _ ih =>
    have h : leapt.1.isOver = false := by simp_all
    exact Nat.lt_trans (ih h behind) (size_leapBoth_lt before h)
  | case3 many merging leapt h => exact size_leapBoth_lt before behind

/-- Merges to the end, element by element and by leaps in turn. The second result
says how many in a row are many after that. -/
def finish (less : α → α → Bool) (side : Side) (many : Nat) (merging : Merging α) :
    List α × Nat :=
  let single := merging.oneByOne less many 0 0
  let leapt := single.leaping less side many
  if _h : single.isOver = true ∨ leapt.1.isOver = true then
    if single.isOver then (single.result, many) else (leapt.1.result, leapt.2)
  else finish less side leapt.2 leapt.1
termination_by merging.size
decreasing_by
  simp only [not_or, Bool.not_eq_true] at _h
  exact Nat.lt_of_lt_of_le (size_leaping_lt _h.1 _h.2) (size_oneByOne_le _ _ _ _ _)

end Merging

/-- Merges two neighbouring runs. What is at its place already is left out: the start
of the first run and the end of the second. The shorter of what remains is held. -/
def mergeRuns (less : α → α → Bool) (many : Nat) (a b : List α) : List α × Nat :=
  match a.getLast?, b with
  | some final, first :: _ =>
    let start := leading (fun x => !less first x) .front a
    let ending := leading (fun x => !less x final) .back b.reverse
    let inner := a.drop start
    let innerB := b.take (b.length - ending)
    if inner.isEmpty || innerB.isEmpty then (a ++ b, many)
    else
      let (merged, many) :=
        if inner.length ≤ innerB.length then
          Merging.finish less .front many (Merging.takePassed { held := inner, passed := innerB })
        else
          let (mergedRev, many) :=
            Merging.finish (fun x y => less y x) .back many
              (Merging.takePassed { held := innerB.reverse, passed := inner.reverse })
          (mergedRev.reverse, many)
      (a.take start ++ merged ++ b.drop (b.length - ending), many)
  | _, _ => (a ++ b, many)

end NtpQuery
