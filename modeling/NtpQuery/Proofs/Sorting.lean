import NtpQuery.Sorting

/-!
# What sorting keeps

A sorted list has the elements of the list that was sorted, each as often, and in
a total order none of them stands before a smaller one. Its middle is there as
soon as there are elements, and is made of them.
-/

namespace NtpQuery

variable {α : Type}

theorem insertSorted_perm (before : α → α → Bool) (a : α) (items : List α) :
    (insertSorted before a items).Perm (a :: items) := by
  induction items with
  | nil => exact .refl _
  | cons b rest ih =>
    rw [insertSorted]
    split
    · exact (ih.cons b).trans (.swap a b rest)
    · exact .refl _

theorem foldl_insertSorted_perm (before : α → α → Bool) (items sorted : List α) :
    (items.foldl (fun sorted a => insertSorted before a sorted) sorted).Perm (sorted ++ items) := by
  induction items generalizing sorted with
  | nil => rw [List.append_nil]; exact .refl _
  | cons a rest ih =>
    rw [List.foldl_cons]
    apply (ih _).trans
    apply ((insertSorted_perm before a sorted).append_right rest).trans
    exact List.perm_middle.symm

theorem sortBy_perm (before : α → α → Bool) (items : List α) :
    (sortBy before items).Perm items :=
  foldl_insertSorted_perm before items []

section Order

variable {before : α → α → Bool} (total : ∀ a b, before a b ∨ before b a)
  (trans : ∀ a b c, before a b → before b c → before a c)

include total trans

theorem insertSorted_pairwise (a : α) {items : List α}
    (sorted : items.Pairwise fun b c => before b c) :
    (insertSorted before a items).Pairwise fun b c => before b c := by
  induction items with
  | nil => exact List.pairwise_singleton ..
  | cons b rest ih =>
    obtain ⟨first, others⟩ := List.pairwise_cons.mp sorted
    rw [insertSorted]
    split
    · rename_i follows
      refine List.pairwise_cons.mpr ⟨?_, ih others⟩
      intro c mem
      rcases List.mem_cons.mp ((insertSorted_perm before a rest).mem_iff.mp mem) with rfl | mem
      · exact follows
      · exact first c mem
    · rename_i precedes
      have ahead : before a b := (total a b).resolve_right precedes
      refine List.pairwise_cons.mpr ⟨?_, sorted⟩
      intro c mem
      rcases List.mem_cons.mp mem with rfl | mem
      · exact ahead
      · exact trans a b c ahead (first c mem)

theorem sortBy_pairwise (items : List α) :
    (sortBy before items).Pairwise fun a b => before a b := by
  have run : ∀ sorted : List α, sorted.Pairwise (fun a b => before a b) →
      (items.foldl (fun sorted a => insertSorted before a sorted) sorted).Pairwise
        fun a b => before a b := by
    induction items with
    | nil => exact fun _ sorted => sorted
    | cons a rest ih =>
      exact fun _ sorted => ih _ (insertSorted_pairwise total trans a sorted)
  exact run [] .nil

end Order

/-- The elements in the middle of a list. -/
def Middle.elements : Middle α → List α
  | .one a => [a]
  | .two a b => [a, b]

/-- A list with elements has a middle, which is made of them. -/
theorem middle?_spec {items : List α} (nonempty : items ≠ []) :
    ∃ middle, middle? items = some middle ∧ ∀ a ∈ middle.elements, a ∈ items := by
  have positive := List.length_pos_iff.mpr nonempty
  have inside : items.length / 2 < items.length := by omega
  rw [middle?]
  split
  · refine ⟨.one items[items.length / 2], ?_, ?_⟩
    · rw [List.getElem?_eq_getElem inside]
      rfl
    · intro a mem
      rw [List.mem_singleton.mp mem]
      exact List.getElem_mem inside
  · have before : items.length / 2 - 1 < items.length := by omega
    refine ⟨.two items[items.length / 2 - 1] items[items.length / 2], ?_, ?_⟩
    · rw [List.getElem?_eq_getElem before, List.getElem?_eq_getElem inside]
      rfl
    · intro a mem
      simp only [Middle.elements, List.mem_cons, List.not_mem_nil, or_false] at mem
      rcases mem with rfl | rfl
      · exact List.getElem_mem before
      · exact List.getElem_mem inside

end NtpQuery
