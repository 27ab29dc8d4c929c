import NtpQuery.Proofs.Network.Waiting

/-!
# Waits that keep their time

Waits are recorded with the timeouts that the system was told, in the order in
which they use up the faults to come. So the faults that a run met are known
from its record: its first wait met the first fault, and so on.

An interruption is in time when it takes some of the timeout of its wait and no
more. A wait whose interruptions are in time never goes on beyond its deadline.
When no datagram ends it, it ends exactly there, unless it was refused: then the
timeout of the refused call is forgone.
-/

namespace NtpQuery

/-- No interruption turns the clock back or takes more than the timeout of its call. -/
def InTime (calls : List (Option WaitFault)) (timeouts : List Int) : Prop :=
  ∀ call ∈ calls.zip timeouts, ∀ ms, call.1 = some (.interrupted ms) → 0 ≤ ms ∧ ms ≤ call.2

/-- No call is refused. -/
def Unrefused (calls : List (Option WaitFault)) (timeouts : List Int) : Prop :=
  ∀ call ∈ calls.zip timeouts, call.1 ≠ some .refused

/-- The time that refused calls were to wait. -/
def forgone : (calls : List (Option WaitFault)) → (timeouts : List Int) → Int
  | some .refused :: calls, timeout :: timeouts => timeout + forgone calls timeouts
  | _ :: calls, _ :: timeouts => forgone calls timeouts
  | _, _ => 0

@[simp] theorem forgone_nil (calls : List (Option WaitFault)) : forgone calls [] = 0 := by
  cases calls with
  | nil => rfl
  | cons call calls =>
    rcases call with _ | _ | _
    all_goals rfl

@[simp] theorem forgone_no_calls (timeouts : List Int) : forgone [] timeouts = 0 := rfl

theorem forgone_append (calls : List (Option WaitFault)) (timeouts later : List Int) :
    forgone calls (timeouts ++ later) =
      forgone calls timeouts + forgone (calls.drop timeouts.length) later := by
  induction timeouts generalizing calls with
  | nil => simp
  | cons timeout timeouts ih =>
    cases calls with
    | nil => simp
    | cons call calls =>
      rcases call with _ | _ | _
      all_goals
        simp only [List.cons_append, List.length_cons, List.drop_succ_cons, forgone, ih]
      omega

theorem forgone_nonneg (calls : List (Option WaitFault)) {timeouts : List Int}
    (nonneg : ∀ timeout ∈ timeouts, 0 ≤ timeout) : 0 ≤ forgone calls timeouts := by
  induction timeouts generalizing calls with
  | nil => simp
  | cons timeout timeouts ih =>
    obtain ⟨first, rest⟩ := List.forall_mem_cons.mp nonneg
    cases calls with
    | nil => simp
    | cons call calls =>
      have := ih calls rest
      rcases call with _ | _ | _
      all_goals
        simp only [forgone]
        omega

theorem forgone_eq_zero {calls : List (Option WaitFault)} {timeouts : List Int}
    (unrefused : Unrefused calls timeouts) : forgone calls timeouts = 0 := by
  induction timeouts generalizing calls with
  | nil => simp
  | cons timeout timeouts ih =>
    cases calls with
    | nil => simp
    | cons call calls =>
      obtain ⟨first, rest⟩ := List.forall_mem_cons.mp unrefused
      rcases call with _ | _ | _
      · exact ih rest
      · exact ih rest
      · exact absurd rfl first

theorem inTime_append {calls : List (Option WaitFault)} {timeouts later : List Int} :
    InTime calls (timeouts ++ later) ↔
      InTime calls timeouts ∧ InTime (calls.drop timeouts.length) later := by
  induction timeouts generalizing calls with
  | nil => simp [InTime]
  | cons timeout timeouts ih =>
    cases calls with
    | nil => simp [InTime]
    | cons call calls =>
      simp only [InTime] at ih
      simp only [InTime, List.cons_append, List.zip_cons_cons, List.forall_mem_cons,
        List.length_cons, List.drop_succ_cons, ih, and_assoc]

/-- Where nothing is refused or interrupted, everything is in time. -/
theorem inTime_of_none {calls : List (Option WaitFault)} (h : refused calls = 0)
    (timeouts : List Int) : InTime calls timeouts ∧ Unrefused calls timeouts := by
  have clean : ∀ call ∈ calls.zip timeouts, call.1 = none := by
    intro call mem
    have listed : call.1 ∈ calls := (List.of_mem_zip mem).1
    have unfaulted := List.countP_eq_zero.mp h call.1 listed
    simpa using unfaulted
  constructor
  · intro call mem ms interrupted
    simp [clean call mem] at interrupted
  · intro call mem
    simp [clean call mem]

namespace Network

/-- The second network is the first one after waits with the given timeouts. -/
structure Waits (net after : Network) (timeouts : List Int) : Prop where
  record : after.waitsRev = timeouts.reverse ++ net.waitsRev
  faults : after.faults.wait = net.faults.wait.drop timeouts.length
  nonneg : ∀ timeout ∈ timeouts, 0 ≤ timeout

/-- All interruptions that were met between two points of time were in time. -/
def Punctual (net after : Network) : Prop :=
  ∃ timeouts, after.waitsRev = timeouts.reverse ++ net.waitsRev ∧
    InTime net.faults.wait timeouts

/-- No wait between two points of time was refused. -/
def Patient (net after : Network) : Prop :=
  ∃ timeouts, after.waitsRev = timeouts.reverse ++ net.waitsRev ∧
    Unrefused net.faults.wait timeouts

namespace Waits

variable {net middle after : Network} {timeouts later : List Int}

theorem refl (net : Network) : net.Waits net [] :=
  ⟨rfl, rfl, by simp⟩

theorem of_same (record : after.waitsRev = net.waitsRev)
    (faults : after.faults.wait = net.faults.wait) : net.Waits after [] :=
  ⟨record, faults, by simp⟩

theorem trans (h : net.Waits middle timeouts) (h' : middle.Waits after later) :
    net.Waits after (timeouts ++ later) := by
  refine ⟨?_, ?_, ?_⟩
  · rw [h'.record, h.record, List.reverse_append, List.append_assoc]
  · rw [h'.faults, h.faults, List.drop_drop, List.length_append]
  · intro timeout mem
    rcases List.mem_append.mp mem with mem | mem
    · exact h.nonneg timeout mem
    · exact h'.nonneg timeout mem

theorem eq_of_record (h : net.Waits after timeouts)
    (record : after.waitsRev = later.reverse ++ net.waitsRev) : later = timeouts := by
  rw [h.record] at record
  exact (List.reverse_inj.mp (List.append_cancel_right record)).symm

theorem inTime (h : net.Waits after timeouts) (punctual : net.Punctual after) :
    InTime net.faults.wait timeouts := by
  obtain ⟨others, record, inTime⟩ := punctual
  rwa [h.eq_of_record record] at inTime

theorem unrefused (h : net.Waits after timeouts) (patient : net.Patient after) :
    Unrefused net.faults.wait timeouts := by
  obtain ⟨others, record, unrefused⟩ := patient
  rwa [h.eq_of_record record] at unrefused

end Waits

/-- What a wait comes to whose interruptions are in time. -/
structure Elapsed (net : Network) (deadline lost : Int) (result : Except Failure Bool × Network) :
    Prop where
  lower : net.clock ≤ result.2.clock
  upper : result.2.clock ≤ deadline
  ending : (result.1 = .ok true ∧ lost = 0) ∨
    (result.1 = .ok false ∧ result.2.clock + lost = deadline)

/-- A call that meets no fault ends with a datagram or with its timeout. -/
theorem elapsed_await {inbox : Inbox} {net after : Network} {deadline remaining timeoutMs : Int}
    {ready : Bool} (told : waitMs? remaining = some timeoutMs)
    (awaited : inbox.await net.clock timeoutMs = (ready, after.clock)) (nonneg : 0 ≤ remaining)
    (reach : net.clock + remaining = deadline) (exact : remaining < exactWaitMs) :
    net.Elapsed deadline 0 (.ok ready, after) := by
  rw [waitMs?_eq_some (by omega)] at told
  obtain rfl := Option.some.inj told
  have lower := (inbox.await_spec net.clock nonneg).1
  rw [awaited] at lower
  cases ready with
  | true =>
    obtain ⟨first, rest, -, soon, time⟩ := Inbox.await_true (congrArg Prod.fst awaited)
    rw [awaited] at time
    exact ⟨lower, by simp only; omega, .inl ⟨rfl, rfl⟩⟩
  | false =>
    have time := (Inbox.await_false (congrArg Prod.fst awaited)).1
    rw [awaited] at time
    exact ⟨lower, by simp only; omega, .inr ⟨rfl, by simp only; omega⟩⟩

theorem waitUntil_elapsed (inbox : Inbox) (deadline : Int) (faults : List (Option WaitFault))
    {remaining : Int} (net : Network) (nonneg : 0 ≤ remaining) :
    ∃ timeouts,
      (waitUntil inbox deadline faults remaining net).2.waitsRev =
        timeouts.reverse ++ net.waitsRev ∧
      (waitUntil inbox deadline faults remaining net).2.faults.wait =
        faults.drop timeouts.length ∧
      (∀ timeout ∈ timeouts, 0 ≤ timeout) ∧
      (InTime faults timeouts → net.clock + remaining = deadline → remaining < exactWaitMs →
        net.Elapsed deadline (forgone faults timeouts)
          (waitUntil inbox deadline faults remaining net)) := by
  fun_induction waitUntil inbox deadline faults remaining net with
  | case1 faults remaining net overflow =>
    refine ⟨[], rfl, rfl, by simp, ?_⟩
    intro _ _ exact
    rw [waitMs?_eq_some (by omega)] at overflow
    cases overflow
  | case2 remaining net timeoutMs told noted ms faults interrupted ih =>
    obtain ⟨timeouts, record, rest, later, elapsed⟩ := ih (Int.le_max_left 0 _)
    refine ⟨timeoutMs :: timeouts, ?_, rest, ?_, ?_⟩
    · rw [record, List.reverse_cons, List.append_assoc]
      rfl
    · exact List.forall_mem_cons.mpr ⟨waitMs?_nonneg nonneg told, later⟩
    · intro inTime reach exact
      obtain ⟨first, others⟩ := List.forall_mem_cons.mp inTime
      obtain ⟨forward, short⟩ := first ms rfl
      rw [waitMs?_eq_some (by omega)] at told
      obtain rfl := Option.some.inj told
      have moved : interrupted.clock = net.clock + ms := rfl
      obtain ⟨lower, upper, ending⟩ := elapsed others (by omega) (by omega)
      exact ⟨by omega, upper, ending⟩
  | case3 remaining net timeoutMs told noted faults =>
    refine ⟨[timeoutMs], rfl, rfl, by simpa using waitMs?_nonneg nonneg told, ?_⟩
    intro _ reach exact
    rw [waitMs?_eq_some (by omega)] at told
    obtain rfl := Option.some.inj told
    have kept : noted.clock = net.clock := rfl
    refine ⟨Int.le_refl _, by simp only; omega, .inr ⟨rfl, ?_⟩⟩
    simp only [forgone, forgone_nil]
    omega
  | case4 remaining net timeoutMs told noted faults ready clock awaited =>
    refine ⟨[timeoutMs], rfl, rfl, by simpa using waitMs?_nonneg nonneg told, ?_⟩
    intro _ reach exact
    simp only [forgone, forgone_nil]
    exact elapsed_await told awaited nonneg reach exact
  | case5 remaining net timeoutMs told noted ready clock awaited =>
    refine ⟨[timeoutMs], rfl, rfl, by simpa using waitMs?_nonneg nonneg told, ?_⟩
    intro _ reach exact
    simp only [forgone]
    exact elapsed_await told awaited nonneg reach exact

theorem wait_elapsed (net : Network) (socket : Socket) {timeoutMs : Int}
    (nonneg : 0 ≤ timeoutMs) :
    ∃ timeouts, net.Waits (net.wait socket timeoutMs).2 timeouts ∧
      (InTime net.faults.wait timeouts → timeoutMs < exactWaitMs →
        net.Elapsed (net.clock + timeoutMs) (forgone net.faults.wait timeouts)
          (net.wait socket timeoutMs)) := by
  have same : max 0 timeoutMs = timeoutMs := by omega
  rw [wait, same]
  obtain ⟨timeouts, record, faults, lengths, elapsed⟩ :=
    waitUntil_elapsed socket.inbox (net.clock + timeoutMs) net.faults.wait net nonneg
  exact ⟨timeouts, ⟨record, faults, lengths⟩, fun inTime exact => elapsed inTime rfl exact⟩

end Network

end NtpQuery
