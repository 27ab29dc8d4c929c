import Mathlib
import NtpQuery.Proofs.Session.Operation

/-!
# Waits that are taken up again

An interrupted wait is taken up with the time that is left to its deadline, and
with none once the deadline has passed. So its calls count down: `Countdown` says
which timeouts the system is told, `waitUntil_interruptions` that these are the
ones that are recorded, whatever comes behind the interruptions.

The deadline does not move. A datagram is found when it arrives before the
deadline or before the last interruption is over, whichever is later; one that
arrived during an interruption is found by the next call. A wait that is refused
ends with nothing and leaves the session as it is.
-/

namespace NtpQuery

/-- Calls that are interrupted, each after the given time. -/
def interruptions (advances : List Int) : List (Option WaitFault) :=
  advances.map fun ms => some (.interrupted ms)

@[simp] theorem interruptions_nil : interruptions [] = [] := rfl

@[simp] theorem interruptions_cons (ms : Int) (advances : List Int) :
    interruptions (ms :: advances) = some (.interrupted ms) :: interruptions advances := rfl

/-- The timeout of a call that is to wait until a deadline. -/
def timeLeft (deadline clock : Int) : Int := max 0 (deadline - clock)

theorem timeLeft_nonneg (deadline clock : Int) : 0 ≤ timeLeft deadline clock :=
  Int.le_max_left 0 _

/-- Waiting for the time that is left ends at the deadline, or at once behind it. -/
theorem add_timeLeft (deadline clock : Int) :
    clock + timeLeft deadline clock = max deadline clock := by
  rw [timeLeft]
  omega

theorem timeLeft_le {early late : Int} (later : early ≤ late) (deadline : Int) :
    timeLeft deadline late ≤ timeLeft deadline early := by
  simp only [timeLeft]
  omega

/-- The timeouts of calls that follow each other, when all but the last take the given times. -/
def timeouts (deadline clock : Int) : (advances : List Int) → List Int
  | [] => [timeLeft deadline clock]
  | ms :: advances => timeLeft deadline clock :: timeouts deadline (clock + ms) advances

/-- Timeouts that count down to a deadline while the clock goes on. -/
structure Countdown (deadline clock : Int) (advances told : List Int) : Prop where
  calls : told.length = advances.length + 1
  first : told.head? = some (timeLeft deadline clock)
  falling : told.Pairwise fun earlier later => later ≤ earlier
  left : ∀ n timeout, told[n]? = some timeout →
    timeout = timeLeft deadline (clock + (advances.take n).sum)

theorem countdown_timeouts (deadline clock : Int) {advances : List Int}
    (forward : ∀ ms ∈ advances, 0 ≤ ms) :
    Countdown deadline clock advances (timeouts deadline clock advances) := by
  induction advances generalizing clock with
  | nil =>
    refine ⟨rfl, rfl, List.pairwise_singleton _ _, ?_⟩
    intro n timeout told
    obtain ⟨rfl, rfl⟩ : n = 0 ∧ timeLeft deadline clock = timeout := by
      simpa [timeouts, List.getElem?_singleton] using told
    simp
  | cons ms advances ih =>
    obtain ⟨onward, forward⟩ := List.forall_mem_cons.mp forward
    obtain ⟨calls, first, falling, left⟩ := ih (clock + ms) forward
    refine ⟨by rw [timeouts, List.length_cons, calls, List.length_cons], rfl, ?_, ?_⟩
    · refine List.pairwise_cons.mpr ⟨?_, falling⟩
      intro timeout mem
      obtain ⟨n, told⟩ := List.mem_iff_getElem?.mp mem
      rw [left n timeout told]
      have passed : 0 ≤ (advances.take n).sum :=
        List.sum_nonneg fun step mem => forward step (List.mem_of_mem_take mem)
      exact timeLeft_le (by omega) deadline
    · intro n timeout told
      cases n with
      | zero =>
        obtain rfl : timeLeft deadline clock = timeout := by simpa [timeouts] using told
        simp
      | succ n =>
        rw [left n timeout told, List.take_succ_cons, List.sum_cons, Int.add_assoc]

namespace Inbox

/-- What the last call of a wait finds, and when. A refused call finds nothing at once. -/
def conclude (inbox : Inbox) (clock timeoutMs : Int) : (call : Option WaitFault) → Bool × Int
  | none => inbox.await clock timeoutMs
  | some _ => (false, clock)

/-- Until a deadline, a datagram is waited for when it comes before the deadline or is there. -/
theorem await_timeLeft {inbox : Inbox} {deadline clock : Int} :
    (inbox.await clock (timeLeft deadline clock)).1 = true ↔
      ∃ first ∈ inbox.head?, first.time ≤ max deadline clock := by
  cases inbox with
  | nil => simp [await]
  | cons first rest =>
    simp only [await, add_timeLeft, List.head?_cons, Option.mem_def, Option.some.injEq,
      exists_eq_left']
    split
    · simp [*]
    · simp [*]

end Inbox

namespace Network

/-- The last call of a wait. -/
theorem waitUntil_uninterrupted (inbox : Inbox) (deadline : Int) {faults : List (Option WaitFault)}
    (uninterrupted : ∀ ms, (nextCall faults).1 ≠ some (.interrupted ms)) {timeoutMs : Int}
    (nonneg : 0 ≤ timeoutMs) (exact : timeoutMs < exactWaitMs) (net : Network) :
    waitUntil inbox deadline faults timeoutMs net =
      (.ok (inbox.conclude net.clock timeoutMs (nextCall faults).1).1,
        { net with
          clock := (inbox.conclude net.clock timeoutMs (nextCall faults).1).2
          waitsRev := timeoutMs :: net.waitsRev
          faults := { net.faults with wait := (nextCall faults).2 } }) := by
  have told : waitMs? timeoutMs = some timeoutMs := waitMs?_eq_some (by omega)
  rcases faults with _ | ⟨_ | ms | _, later⟩
  · rw [waitUntil, told]
    rfl
  · rw [waitUntil, told]
    rfl
  · exact absurd rfl (uninterrupted ms)
  · rw [waitUntil, told]
    rfl

/-- Interruptions are waited through; what comes behind them ends the wait. -/
theorem waitUntil_interruptions (inbox : Inbox) (deadline : Int) {advances : List Int}
    (forward : ∀ ms ∈ advances, 0 ≤ ms) {faults : List (Option WaitFault)}
    (uninterrupted : ∀ ms, (nextCall faults).1 ≠ some (.interrupted ms)) (net : Network)
    (exact : timeLeft deadline net.clock < exactWaitMs) :
    let resumed := net.clock + advances.sum
    let ending := inbox.conclude resumed (timeLeft deadline resumed) (nextCall faults).1
    waitUntil inbox deadline (interruptions advances ++ faults) (timeLeft deadline net.clock) net =
      (.ok ending.1,
        { net with
          clock := ending.2
          waitsRev := (timeouts deadline net.clock advances).reverse ++ net.waitsRev
          faults := { net.faults with wait := (nextCall faults).2 } }) := by
  induction advances generalizing net with
  | nil =>
    simp only [interruptions_nil, List.nil_append, List.sum_nil, Int.add_zero]
    exact waitUntil_uninterrupted inbox deadline uninterrupted (timeLeft_nonneg _ _) exact net
  | cons ms advances ih =>
    obtain ⟨onward, forward⟩ := List.forall_mem_cons.mp forward
    have nonneg := timeLeft_nonneg deadline net.clock
    have told : waitMs? (timeLeft deadline net.clock) = some (timeLeft deadline net.clock) :=
      waitMs?_eq_some (by omega)
    have fewer := timeLeft_le (by omega : net.clock ≤ net.clock + ms) deadline
    let next : Network :=
      ({ net with waitsRev := timeLeft deadline net.clock :: net.waitsRev } : Network).advance ms
    have later := ih forward next (Int.lt_of_le_of_lt fewer exact)
    rw [interruptions_cons, List.cons_append, waitUntil, told]
    simp only [List.sum_cons, ← Int.add_assoc, timeouts, List.reverse_cons, List.append_assoc,
      List.singleton_append]
    exact later

end Network

namespace Channel

variable {channel : Channel} {socket : Socket} {timeoutMs : Int} {advances : List Int}
  {faults : List (Option WaitFault)}

/-- A wait that is interrupted some number of times makes one call more. Its timeouts count down
to its deadline. It ends with the first datagram of the inbox when this comes before the deadline
or before the last interruption is over, otherwise with the later of these two times; when its last
call is refused, it ends there with nothing. The session stays as it is in every case. -/
theorem wait_interrupted (opened : channel.session.socket = some socket)
    (exact : timeoutMs < Network.exactWaitMs) (forward : ∀ ms ∈ advances, 0 ≤ ms)
    (met : channel.network.faults.wait = interruptions advances ++ faults)
    (uninterrupted : ∀ ms, (nextCall faults).1 ≠ some (.interrupted ms)) :
    let deadline := channel.clock + max 0 timeoutMs
    let resumed := channel.clock + advances.sum
    ∃ ready clock told,
      channel.wait timeoutMs =
        (.ok ready,
          { channel with
            network :=
              { channel.network with
                clock
                waitsRev := told.reverse ++ channel.network.waitsRev
                faults := { channel.network.faults with wait := (nextCall faults).2 } } }) ∧
      told.head? = some (max 0 timeoutMs) ∧
      Countdown deadline channel.clock advances told ∧
      ((nextCall faults).1 = none →
        (ready = true ↔
          ∃ first ∈ channel.session.inbox.head?, first.time ≤ max deadline resumed) ∧
        (ready = true →
          ∃ first ∈ channel.session.inbox.head?, clock = max resumed first.time) ∧
        (ready = false → clock = max deadline resumed)) ∧
      ((nextCall faults).1 = some .refused → ready = false ∧ clock = resumed) := by
  intro deadline resumed
  have whole : timeLeft deadline channel.clock = max 0 timeoutMs := by
    simp only [timeLeft, deadline]
    omega
  have limit : timeLeft deadline channel.clock < Network.exactWaitMs := by
    rw [whole]
    simp only [Network.exactWaitMs] at exact ⊢
    omega
  have countdown := countdown_timeouts deadline channel.clock forward
  have waited := Network.waitUntil_interruptions socket.inbox deadline forward uninterrupted
    channel.network limit
  let ending := socket.inbox.conclude resumed (timeLeft deadline resumed) (nextCall faults).1
  refine ⟨ending.1, ending.2, timeouts deadline channel.clock advances, ?_,
    by rw [countdown.first, whole], countdown, ?_, ?_⟩
  · have begun : channel.network.wait socket timeoutMs =
        Network.waitUntil socket.inbox deadline (interruptions advances ++ faults)
          (timeLeft deadline channel.network.clock) channel.network := by
      rw [Network.wait, met, show timeLeft deadline channel.network.clock = _ from whole]
      rfl
    rw [wait_eq opened, begun, waited]
    rfl
  · intro unfaulted
    simp only [ending, unfaulted, Session.inbox_eq opened]
    refine ⟨Inbox.await_timeLeft, ?_, ?_⟩
    · intro ready
      obtain ⟨first, rest, waiting, -, clock⟩ := Inbox.await_true ready
      exact ⟨first, by rw [waiting]; rfl, clock⟩
    · intro unready
      exact (Inbox.await_false unready).1.trans (add_timeLeft deadline resumed)
  · intro refused
    simp only [ending, refused]
    exact ⟨rfl, rfl⟩

/-- The last interruption goes on beyond the deadline, and a datagram arrives during it. -/
theorem wait_interrupted_overtime :
    let first : Arrival := ⟨900, ⟨[0x1E, 0x82], ⟨"192.0.2.10", 123⟩⟩⟩
    let socket : Socket := { id := 0, address := ⟨"0.0.0.0", 40001⟩, inbox := [first] }
    let faults : List (Option WaitFault) := [none, some .refused]
    let channel : Channel :=
      { session := { socket := some socket }
        network := { faults := { wait := interruptions [200, 0, 800] ++ faults } } }
    (channel.wait 500).1 = .ok true ∧ (channel.wait 500).2.clock = 1000 ∧
      (channel.wait 500).2.session = channel.session ∧
      ∃ told, (channel.wait 500).2.network.waitsRev = told.reverse ++ [] ∧
        Countdown 500 0 [200, 0, 800] told := by
  intro first socket faults channel
  have opened : channel.session.socket = some socket := rfl
  have met : channel.network.faults.wait = interruptions [200, 0, 800] ++ faults := rfl
  obtain ⟨ready, clock, told, waited, -, countdown, unfaulted, -⟩ :=
    wait_interrupted opened (by decide : (500 : Int) < Network.exactWaitMs) (by decide) met
      (by simp [faults, nextCall])
  obtain ⟨found, time, -⟩ := unfaulted rfl
  obtain rfl : ready = true := found.mpr ⟨first, rfl, by decide⟩
  obtain ⟨head, waiting, rfl⟩ := time rfl
  obtain rfl := Option.some.inj waiting
  rw [waited]
  exact ⟨rfl, rfl, rfl, told, rfl, countdown⟩

end Channel

end NtpQuery
