import NtpQuery.Sorting.Merge

/-!
# Arranging by runs

A list is cut into runs: stretches that rise, or fall and are turned around.
Runs that are too short are lengthened by inserting what follows. Neighbouring
runs are merged once it is clear that the border between them lies deeper than
the one before it, in the tree that halving the whole list makes; this keeps
the merges even.

All this serves lists with elements that are less than nothing and that nothing
is less than, such as what is not a number. They have no place in an order,
and where they end up depends on which elements are compared.
-/

namespace NtpQuery

variable {α : Type}

/-- The elements that continue a run whose last element is given, and the rest. -/
def splitRun (continues : (last next : α) → Bool) : (last : α) → List α → List α × List α
  | _, [] => ([], [])
  | last, a :: rest =>
    if continues last a then
      let (run, rest) := splitRun continues a rest
      (a :: run, rest)
    else ([], a :: rest)

/-- The run at the start, rising, and the rest. No element of a rising run is less
than the one before it; in a falling run each one is. -/
def leadingRun (less : α → α → Bool) : List α → List α × List α
  | a :: b :: rest =>
    if less b a then
      let (run, rest) := splitRun (fun last next => less next last) b rest
      ((a :: b :: run).reverse, rest)
    else
      let (run, rest) := splitRun (fun last next => !less next last) b rest
      (a :: b :: run, rest)
  | items => (items, [])

theorem length_splitRun_le (continues : α → α → Bool) (last : α) (items : List α) :
    (splitRun continues last items).2.length ≤ items.length := by
  induction items generalizing last with
  | nil => simp [splitRun]
  | cons a rest ih =>
    simp only [splitRun]
    split
    · exact Nat.le_succ_of_le (ih a)
    · exact Nat.le_refl _

/-- A run takes at least one element. -/
theorem length_leadingRun_lt (less : α → α → Bool) {items : List α} (h : items ≠ []) :
    (leadingRun less items).2.length < items.length := by
  match items with
  | [] => contradiction
  | [_] => simp [leadingRun]
  | a :: b :: rest =>
    simp only [leadingRun]
    have : rest.length < (a :: b :: rest).length := by
      simp only [List.length_cons]
      omega
    split <;> exact Nat.lt_of_le_of_lt (length_splitRun_le _ b rest) this

/-- Puts an element where halving leads. -/
def insertHalving (less : α → α → Bool) (items : List α) (a : α) : List α :=
  let place := halve (fun b => !less a b) .front items 0 items.length
  items.take place ++ a :: items.drop place

/-- The least length of a run in a list of that length; `odd` tells whether halving
it has left a remainder. Short lists are one run. -/
def leastRun (length : Nat) (odd : Bool) : Nat :=
  if length < 64 then length + odd.toNat
  else leastRun (length / 2) (odd || length % 2 = 1)

/-- How deep a border between two runs lies in the tree of halves: the first depth at
which a half ends between their middles. The middles are given doubled, by the
first of them and the gap to the second. -/
def borderDepth (total : Nat) (middle gap : Nat) : Nat :=
  if gap = 0 ∨ total ≤ gap then 1
  else if total ≤ middle then 1 + borderDepth total (2 * (middle - total)) (2 * gap)
  else if total ≤ middle + gap then 1
  else 1 + borderDepth total (2 * middle) (2 * gap)
termination_by total - gap

/-- A run that waits to be merged. -/
structure WaitingRun (α : Type) where
  items : List α
  /-- How deep the border behind it lies; 0 for the last run. -/
  depth : Nat := 0
  deriving Repr

/-- The runs found so far. -/
structure Arranging (α : Type) where
  /-- Last run first. -/
  runsRev : List (WaitingRun α) := []
  /-- How many elements in a row are many in the next merge. -/
  many : Nat := Merging.worthLeaping
  deriving Repr

namespace Arranging

/-- Merges the last two of these runs. -/
def mergeLast (less : α → α → Bool) (arranging : Arranging α) : Arranging α :=
  match arranging.runsRev with
  | b :: a :: rest =>
    let (items, many) := mergeRuns less arranging.many a.items b.items
    { runsRev := { items, depth := b.depth } :: rest, many }
  | _ => arranging

/-- Merges the last runs whose border lies deeper than the given one. The fuel is the
number of runs. -/
def mergeDeeper (less : α → α → Bool) (depth : Nat) :
    (fuel : Nat) → Arranging α → Arranging α
  | 0, arranging => arranging
  | fuel + 1, arranging =>
    match arranging.runsRev with
    | _ :: a :: _ =>
      if depth < a.depth then mergeDeeper less depth fuel (arranging.mergeLast less)
      else arranging
    | _ => arranging

/-- Adds a run in a list of the given length. -/
def push (less : α → α → Bool) (total : Nat) (arranging : Arranging α) (run : List α) :
    Arranging α :=
  match arranging.runsRev with
  | [] => { arranging with runsRev := [{ items := run }] }
  | last :: before =>
    let start := before.foldl (fun n earlier => n + earlier.items.length) 0
    let length := last.items.length
    let depth := borderDepth total (2 * start + length) (length + run.length)
    let merged := mergeDeeper less depth arranging.runsRev.length arranging
    match merged.runsRev with
    | [] => merged
    | last :: before => { merged with runsRev := { items := run } :: { last with depth } :: before }

/-- Merges all runs. When the last run is longer than the one two before it, those two
are merged first. The fuel is the number of runs. -/
def mergeAll (less : α → α → Bool) : (fuel : Nat) → Arranging α → List α
  | 0, arranging => arranging.runsRev.flatMap (·.items)
  | fuel + 1, arranging =>
    match arranging.runsRev with
    | [] => []
    | [run] => run.items
    | c :: b :: a :: rest =>
      if a.items.length < c.items.length then
        let inner := mergeLast less { arranging with runsRev := b :: a :: rest }
        mergeAll less fuel { inner with runsRev := c :: inner.runsRev }
      else mergeAll less fuel (arranging.mergeLast less)
    | _ => mergeAll less fuel (arranging.mergeLast less)

/-- Cuts the rest of a list of the given length into runs. -/
def cut (less : α → α → Bool) (total : Nat) (arranging : Arranging α) (items : List α) :
    Arranging α :=
  if _h : items = [] then arranging
  else
    let found := leadingRun less items
    let missing := leastRun total false - found.1.length
    let run := (found.2.take missing).foldl (insertHalving less) found.1
    cut less total (arranging.push less total run) (found.2.drop missing)
termination_by items.length
decreasing_by
  have := length_leadingRun_lt less _h
  simp only [List.length_drop]
  omega

end Arranging

/-- The elements in an order that respects what can be compared as far as it is seen. -/
def arrange (less : α → α → Bool) (items : List α) : List α :=
  let arranging := Arranging.cut less items.length {} items
  arranging.mergeAll less arranging.runsRev.length

end NtpQuery
