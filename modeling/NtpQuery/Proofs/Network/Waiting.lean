import NtpQuery.Proofs.Binary64.Range
import NtpQuery.Proofs.Network.Refusal

/-!
# Waiting

A wait goes through the interruptions in its way and ends with the first call
that is none. It changes the clock, the record of waits and the faults still to
come, and nothing else. It fails only when a time is told to the system that no
double holds.

The clock less what interruptions may still turn it back never falls, whatever
happens. Where nothing interferes, a wait ends with the first datagram of the
inbox or with the time, whichever comes first.
-/

namespace NtpQuery

/-- How far the interruptions to come turn the clock back, which is nothing on a
clock that only goes on. -/
def setback : List (Option WaitFault) → Int
  | [] => 0
  | some (.interrupted ms) :: faults => max 0 (-ms) + setback faults
  | _ :: faults => setback faults

theorem setback_of_none {faults : List (Option WaitFault)} (h : refused faults = 0) :
    setback faults = 0 := by
  induction faults with
  | nil => rfl
  | cons fault faults ih =>
    cases fault with
    | none => exact ih (by simpa [refused] using h)
    | some fault => simp [refused] at h

theorem setback_nonneg (faults : List (Option WaitFault)) : 0 ≤ setback faults := by
  induction faults with
  | nil => exact Int.le_refl 0
  | cons fault faults ih =>
    cases fault with
    | none => exact ih
    | some fault =>
      cases fault with
      | interrupted ms =>
        simp only [setback]
        omega
      | refused => exact ih

namespace Inbox

theorem await_spec (inbox : Inbox) (clock : Int) {timeoutMs : Int} (nonneg : 0 ≤ timeoutMs) :
    clock ≤ (inbox.await clock timeoutMs).2 ∧
      ((inbox.await clock timeoutMs).1 = true →
        ∃ first rest, inbox = first :: rest ∧ first.time ≤ (inbox.await clock timeoutMs).2) := by
  cases inbox with
  | nil => exact ⟨by simp only [await]; omega, by simp [await]⟩
  | cons head rest =>
    simp only [await]
    split
    · exact ⟨by simp only; omega, fun _ => ⟨head, rest, rfl, by simp only; omega⟩⟩
    · exact ⟨by simp only; omega, by simp⟩

/-- A datagram that was waited for is the first one. -/
theorem await_true {inbox : Inbox} {clock timeoutMs : Int}
    (h : (inbox.await clock timeoutMs).1 = true) :
    ∃ first rest, inbox = first :: rest ∧ first.time ≤ clock + timeoutMs ∧
      (inbox.await clock timeoutMs).2 = max clock first.time := by
  cases inbox with
  | nil => simp [await] at h
  | cons first rest =>
    simp only [await] at h ⊢
    split at h
    · rename_i soon
      exact ⟨first, rest, rfl, soon, by rw [if_pos soon]⟩
    · simp at h

theorem await_false {inbox : Inbox} {clock timeoutMs : Int}
    (h : (inbox.await clock timeoutMs).1 = false) :
    (inbox.await clock timeoutMs).2 = clock + timeoutMs ∧
      ∀ first ∈ inbox.head?, clock + timeoutMs < first.time := by
  cases inbox with
  | nil => exact ⟨rfl, by simp⟩
  | cons first rest =>
    simp only [await] at h ⊢
    split at h
    · simp at h
    · rename_i later
      refine ⟨by rw [if_neg later], ?_⟩
      simp only [List.head?_cons, Option.mem_def, Option.some.injEq, forall_eq']
      omega

end Inbox

namespace Network

/-- All times from zero to a bound can be told to the system. -/
def Tellable (bound : Int) : Prop :=
  ∀ ms, 0 ≤ ms → ms ≤ bound → (waitMs? ms).isSome

theorem Tellable.mono {bound bound' : Int} (tellable : Tellable bound) (le : bound' ≤ bound) :
    Tellable bound' :=
  fun ms nonneg within => tellable ms nonneg (Int.le_trans within le)

theorem waitMs?_eq_some {ms : Int} (h : ms.natAbs < exactWaitMs) : waitMs? ms = some ms := by
  rw [waitMs?, if_pos h]

theorem tellable_of_lt {bound : Int} (h : bound < exactWaitMs) : Tellable bound := by
  intro ms lower upper
  rw [waitMs?_eq_some (by omega)]
  rfl

/-- A time is told to the system as long as it is no longer than the largest double, by which it
survives the division into seconds. -/
theorem tellable_largest : Tellable Binary64.largest := by
  intro ms natural within
  rw [waitMs?]
  split
  · rfl
  · have exact := Binary64.within_ofInt natural within
    have told := Binary64.within_mul_thousand (Binary64.within_div_thousand exact)
    rw [Binary64.ofInt?, exact.finite?]
    exact told.nearestInt?_isSome

theorem waitMs?_nonneg {ms told : Int} (nonneg : 0 ≤ ms) (h : waitMs? ms = some told) :
    0 ≤ told := by
  rw [waitMs?] at h
  split at h
  · simp only [Option.some.injEq] at h
    omega
  · have positive : (Binary64.ofInt ms).isNegative = false := by
      rw [Binary64.isNegative_ofInt]
      exact decide_eq_false (by omega)
    have thousand : (Binary64.ofInt 1000).isNegative = false := Binary64.isNegative_ofInt 1000
    obtain ⟨exact, he, h⟩ := Option.bind_eq_some_iff.mp h
    rw [Binary64.eq_of_finite? he] at h
    exact Binary64.nearestInt?_nonneg
      (Binary64.isNegative_mul (Binary64.isNegative_div positive thousand) thousand) h

/-- What every wait does, whatever it meets. -/
structure Waited (net : Network) (inbox : Inbox) (faults : List (Option WaitFault)) (bound : Int)
    (result : Except Failure Bool × Network) : Prop where
  network : ∃ clock waitsRev wait,
    result.2 = { net with clock, waitsRev, faults := { net.faults with wait } }
  clock : net.clock - setback faults ≤ result.2.clock - setback result.2.faults.wait
  spent : setback result.2.faults.wait ≤ setback faults
  fewer : refused result.2.faults.wait ≤ refused faults
  ready : result.1 = .ok true →
    ∃ first rest, inbox = first :: rest ∧ first.time ≤ result.2.clock
  failure : ∀ failure, result.1 = .error failure → failure = .overflow ∧ ¬ Tellable bound

theorem waitUntil_spec {inbox : Inbox} {deadline bound : Int} {faults : List (Option WaitFault)}
    {remaining : Int} {net : Network} (nonneg : 0 ≤ remaining) (told : remaining ≤ bound)
    (within : deadline - net.clock + setback faults ≤ bound) :
    net.Waited inbox faults bound (waitUntil inbox deadline faults remaining net) := by
  fun_induction waitUntil inbox deadline faults remaining net with
  | case1 faults remaining net overflow =>
    refine ⟨⟨_, _, _, rfl⟩, Int.le_refl _, Int.le_refl _, Nat.le_refl _, by simp, ?_⟩
    rintro failure ⟨⟩
    refine ⟨rfl, ?_⟩
    intro tellable
    have some_told := tellable remaining nonneg told
    simp [overflow] at some_told
  | case2 remaining net timeoutMs ht noted ms faults interrupted ih =>
    have rest_nonneg := setback_nonneg faults
    have moved : interrupted.clock = net.clock + ms := rfl
    simp only [setback] at within
    -- The time left grows by no more than the interruption turned the clock back.
    obtain ⟨⟨clock, waits, wait, hn⟩, later, less, fewer, ready, failure⟩ :=
      ih (by omega) (by omega) (by omega)
    refine ⟨⟨clock, waits, wait, hn⟩, ?_, ?_, ?_, ready, failure⟩
    · simp only [setback]
      omega
    · simp only [setback]
      omega
    · apply Nat.le_trans fewer
      simp [refused]
  | case3 remaining net timeoutMs ht noted faults =>
    refine ⟨⟨_, _, _, rfl⟩, Int.le_refl _, Int.le_refl _, ?_, by simp, by simp⟩
    simp [refused]
  | case4 remaining net timeoutMs ht noted faults ready clock awaited =>
    obtain ⟨later, waiting⟩ := inbox.await_spec net.clock (waitMs?_nonneg nonneg ht)
    have same : inbox.await net.clock timeoutMs = (ready, clock) := awaited
    rw [same] at later waiting
    refine ⟨⟨_, _, _, rfl⟩, ?_, Int.le_refl _, ?_, by simpa using waiting, by simp⟩
    · simpa [setback] using later
    · simp [refused]
  | case5 remaining net timeoutMs ht noted ready clock awaited =>
    obtain ⟨later, waiting⟩ := inbox.await_spec net.clock (waitMs?_nonneg nonneg ht)
    have same : inbox.await net.clock timeoutMs = (ready, clock) := awaited
    rw [same] at later waiting
    refine ⟨⟨_, _, _, rfl⟩, ?_, Int.le_refl _, Nat.le_refl _, by simpa using waiting, by simp⟩
    simpa [setback] using later

theorem wait_spec (net : Network) (socket : Socket) {timeoutMs bound : Int}
    (nonneg : 0 ≤ timeoutMs) (within : timeoutMs + setback net.faults.wait ≤ bound) :
    net.Waited socket.inbox net.faults.wait bound (net.wait socket timeoutMs) := by
  have := setback_nonneg net.faults.wait
  have same : max 0 timeoutMs = timeoutMs := by omega
  rw [wait, same]
  exact waitUntil_spec nonneg (by omega) (by omega)

/-- Where no wait is refused or interrupted, the first call decides. -/
theorem wait_quiet (net : Network) (socket : Socket) {timeoutMs : Int}
    (quiet : refused net.faults.wait = 0) (nonneg : 0 ≤ timeoutMs)
    (exact : timeoutMs < exactWaitMs) :
    ∃ wait, refused wait = 0 ∧
      net.wait socket timeoutMs =
        (.ok (socket.inbox.await net.clock timeoutMs).1,
          { net with
            clock := (socket.inbox.await net.clock timeoutMs).2
            waitsRev := timeoutMs :: net.waitsRev
            faults := { net.faults with wait } }) := by
  have same : max 0 timeoutMs = timeoutMs := by omega
  have told : waitMs? timeoutMs = some timeoutMs := waitMs?_eq_some (by omega)
  rw [wait, same]
  cases hf : net.faults.wait with
  | nil =>
    refine ⟨[], rfl, ?_⟩
    rw [waitUntil, told]
  | cons fault faults =>
    cases fault with
    | none =>
      refine ⟨faults, by simpa [refused, hf] using quiet, ?_⟩
      rw [waitUntil, told]
    | some fault => simp [refused, hf] at quiet

end Network

end NtpQuery
