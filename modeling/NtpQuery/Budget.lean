import NtpQuery.Failure

/-!
# Retries and timeout

A query may repeat its request a number of times within a total timeout. The
timeout is shared evenly among the attempts. A budget always has a positive
timeout; arguments that make none are refused with the first rule they break.
-/

namespace NtpQuery

structure Budget where
  retries : Nat
  timeoutMs : Nat
  timeout_pos : 0 < timeoutMs
  deriving DecidableEq, Repr

namespace Budget

def attempts (budget : Budget) : Nat := budget.retries + 1

/-- The time that one attempt may take. -/
def attemptMs (budget : Budget) : Nat := budget.timeoutMs / budget.attempts

def standard : Budget := ⟨2, 2000, by decide⟩

instance : Inhabited Budget := ⟨standard⟩

def negativeRetries (retries : Int) : QueryError :=
  .argument ("retries must be >= 0, got " ++ toString retries)

def nonPositiveTimeout (timeoutMs : Int) : QueryError :=
  .argument ("timeout must be > 0 ms, got " ++ toString timeoutMs)

/-- The budget with the given numbers. -/
def make? (retries timeoutMs : Int) : Except QueryError Budget :=
  if retries < 0 then .error (negativeRetries retries)
  else if h : timeoutMs ≤ 0 then .error (nonPositiveTimeout timeoutMs)
  else .ok ⟨retries.toNat, timeoutMs.toNat, by omega⟩

/-- The budget of numbers that may be absent, where each has to be present. -/
def ofParts? : (retries timeoutMs : Option Int) → Except Failure Budget
  | some retries, some timeoutMs => (make? retries timeoutMs).mapError .reported
  | some retries, none =>
    if retries < 0 then .error (.reported (negativeRetries retries)) else .error .badType
  | none, _ => .error .badType

/-- The budget with some of its numbers replaced. -/
def override (budget : Budget) (retries timeoutMs : Option Int) : Except QueryError Budget :=
  make? (retries.getD budget.retries) (timeoutMs.getD budget.timeoutMs)

@[simp] theorem override_none (budget : Budget) : budget.override none none = .ok budget := by
  have := budget.timeout_pos
  simp only [override, make?, Option.getD_none]
  rw [if_neg (by omega), dif_neg (by omega)]
  simp

end Budget

end NtpQuery
