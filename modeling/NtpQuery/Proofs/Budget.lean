import NtpQuery.Budget

/-!
# A budget with other numbers

Numbers of a budget can be replaced one by one. The outcome has the number that
was given, and the one of before where none was. So whatever holds of a number
before and of the one that replaces it holds after. It is only for a number that
no budget has that they are refused.
-/

namespace NtpQuery.Budget

variable {budget made : Budget} {retries timeoutMs : Option Int}

theorem override_error {error : QueryError}
    (refused : budget.override retries timeoutMs = .error error) :
    ∃ message, error = .argument message := by
  rw [override, make?] at refused
  split at refused
  · exact ⟨_, (Except.error.inj refused).symm⟩
  · split at refused
    · exact ⟨_, (Except.error.inj refused).symm⟩
    · simp at refused

theorem override_numbers (replaced : budget.override retries timeoutMs = .ok made) :
    (made.retries : Int) = retries.getD budget.retries ∧
      (made.timeoutMs : Int) = timeoutMs.getD budget.timeoutMs := by
  rw [override, make?] at replaced
  split at replaced
  · simp at replaced
  · split at replaced
    · simp at replaced
    · obtain rfl := Except.ok.inj replaced
      simp only
      omega

/-- What holds of a number and of the one that replaces it, if there is one, holds of the outcome. -/
theorem getD_of_replaced {p : Int → Prop} {number : Int} {given : Option Int} (kept : p number)
    (replaces : ∀ n ∈ given, p n) : p (given.getD number) := by
  cases given with
  | none => exact kept
  | some n => exact replaces n rfl

theorem override_retries {p : Int → Prop} (replaced : budget.override retries timeoutMs = .ok made)
    (kept : p budget.retries) (given : ∀ n ∈ retries, p n) : p made.retries := by
  rw [(override_numbers replaced).1]
  exact getD_of_replaced kept given

theorem override_timeoutMs {p : Int → Prop}
    (replaced : budget.override retries timeoutMs = .ok made) (kept : p budget.timeoutMs)
    (given : ∀ n ∈ timeoutMs, p n) : p made.timeoutMs := by
  rw [(override_numbers replaced).2]
  exact getD_of_replaced kept given

/-- Numbers that a budget can have are not refused. -/
theorem override_of_valid (budget : Budget) (nonneg : ∀ n ∈ retries, 0 ≤ n)
    (positive : ∀ n ∈ timeoutMs, 0 < n) :
    ∃ made, budget.override retries timeoutMs = .ok made := by
  have attempts : 0 ≤ retries.getD budget.retries :=
    getD_of_replaced (Int.natCast_nonneg _) nonneg
  have timeout : 0 < timeoutMs.getD budget.timeoutMs :=
    getD_of_replaced (Int.natCast_pos.mpr budget.timeout_pos) positive
  rw [override, make?, if_neg (by omega), dif_neg (by omega)]
  exact ⟨_, rfl⟩

end NtpQuery.Budget
