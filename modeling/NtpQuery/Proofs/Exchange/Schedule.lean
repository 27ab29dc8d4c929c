import NtpQuery.Proofs.Exchange.Round
import NtpQuery.Proofs.Network.Interruption

/-!
# The schedule of an exchange

Attempts follow each other at even distances: the request of each leaves at the
deadline of the one before. Two deadlines have to agree for this, that of the
attempt and that of each wait in it, through any number of interruptions and of
datagrams that are turned away.

`Heeded` is what holds at every round of an attempt. The clock is between the
departure of the request and the deadline, and an attempt that ends without an
answer ends at the deadline, less the time that refused waits have forgone. In
`Paced` this is added up over the attempts. Everything is said relative to the
channel at which a part of the exchange begins, so that what is left of an
exchange is described in the same way as the whole.
-/

namespace NtpQuery

/-- Nothing was sent and nothing was refused but waits. -/
structure Channel.Still (channel after : Channel) : Prop where
  sentRev : after.network.sentRev = channel.network.sentRev
  wallOffset : after.network.wallOffset = channel.network.wallOffset
  refusals : after.network.faults.refusals = channel.network.faults.refusals

namespace Channel.Still

variable {channel after : Channel}

theorem trans {first second third : Channel} (h : first.Still second) (h' : second.Still third) :
    first.Still third :=
  ⟨h'.sentRev.trans h.sentRev, h'.wallOffset.trans h.wallOffset, h'.refusals.trans h.refusals⟩

theorem wait {timeoutMs : Int} {result : Except Failure Bool} (opened : channel.session.isOpen)
    (nonneg : 0 ≤ timeoutMs) (waited : channel.wait timeoutMs = (result, after)) :
    channel.Still after := by
  obtain ⟨socket, hs⟩ := Option.isSome_iff_exists.mp opened
  obtain ⟨⟨clock, record, faults, hn⟩, -⟩ :=
    channel.network.wait_spec socket nonneg (Int.le_refl _)
  rw [Channel.wait_eq hs, hn, Prod.mk.injEq] at waited
  obtain ⟨-, rfl⟩ := waited
  exact ⟨rfl, rfl, rfl⟩

theorem taken {size : Int} {datagram : Datagram} (taken : channel.Taken size datagram after) :
    channel.Still after := by
  obtain ⟨_, hn⟩ := taken.network
  refine ⟨taken.sentRev, ?_, taken.refusals⟩
  rw [hn]

end Channel.Still

/-- A network whose only faults are those of waits. -/
def Network.OnlyWaits (net : Network) : Prop :=
  ∀ kind, net.faults.refusals kind = 0

theorem Channel.Dropped.not_onlyWaits {channel after : Channel} {refusal : Refusal}
    (dropped : channel.Dropped refusal after) : ¬ channel.network.OnlyWaits := by
  intro onlyWaits
  have one := dropped.spent refusal
  rw [onlyWaits, if_pos rfl] at one
  omega

theorem Channel.Still.onlyWaits {channel after : Channel} (still : channel.Still after)
    (onlyWaits : channel.network.OnlyWaits) : after.network.OnlyWaits := by
  intro kind
  rw [still.refusals]
  exact onlyWaits kind

namespace Exchange

variable {α : Type} {exchange : Exchange α} {departure : Departure} {channel after : Channel}
  {trail trail' : Trail}

/-- What listening comes to within the time of its attempt. -/
structure Heeded (exchange : Exchange α) (departure : Departure) (channel : Channel)
    (attempts : Nat) (lost : Int) (ending : Option (Ending α)) (after : Channel) : Prop where
  lower : channel.clock ≤ after.clock
  upper : after.clock ≤ exchange.deadline departure
  ending : match ending with
    | none => lost = 0
    | some .over => after.clock + lost = exchange.deadline departure
    | some (.accepted answer) =>
      lost = 0 ∧ answer.attempts = attempts ∧ answer.sentAt = departure.sentAt ∧
        answer.receivedAt = after.network.wallSeconds ∧
        answer.roundTrip = after.clock - departure.clock
    | some (.failed _) => False

/-- Listening sends nothing. It keeps to the time of its attempt when it began in this time and all
interruptions are in time. -/
structure Listened (exchange : Exchange α) (departure : Departure) (channel : Channel)
    (trail : Trail) (ending : Option (Ending α)) (trail' : Trail) (after : Channel)
    (timeouts : List Int) : Prop where
  waits : channel.network.Waits after.network timeouts
  still : channel.Still after
  attempts : trail'.attempts = trail.attempts
  heeded : InTime channel.network.faults.wait timeouts → departure.clock ≤ channel.clock →
    channel.clock ≤ exchange.deadline departure →
    exchange.Heeded departure channel trail.attempts
      (forgone channel.network.faults.wait timeouts) ending after

/-- A wait of an attempt ends within the attempt, at its deadline if no datagram came. -/
theorem wait_elapsed {result : Except Failure Bool} (opened : channel.session.isOpen)
    (budget : exchange.attemptMs < Network.exactWaitMs)
    (waited : channel.wait (exchange.remaining departure channel) = (result, after)) :
    channel.Still after ∧ ∃ timeouts, channel.network.Waits after.network timeouts ∧
      (InTime channel.network.faults.wait timeouts → departure.clock ≤ channel.clock →
        channel.clock ≤ exchange.deadline departure →
        channel.network.Elapsed (exchange.deadline departure)
          (forgone channel.network.faults.wait timeouts) (result, after.network)) := by
  have nonneg : 0 ≤ exchange.remaining departure channel := Int.le_max_left 0 _
  obtain ⟨socket, hs⟩ := Option.isSome_iff_exists.mp opened
  refine ⟨.wait opened nonneg waited, ?_⟩
  obtain ⟨timeouts, waits, elapsed⟩ := channel.network.wait_elapsed socket nonneg
  rw [Channel.wait_eq hs, Prod.mk.injEq] at waited
  obtain ⟨rfl, rfl⟩ := waited
  refine ⟨timeouts, waits, ?_⟩
  intro inTime lower upper
  have span : exchange.deadline departure = departure.clock + exchange.attemptMs := rfl
  have reach : channel.network.clock + exchange.remaining departure channel =
      exchange.deadline departure := by
    simp only [remaining, Channel.clock] at upper ⊢
    omega
  have short : exchange.remaining departure channel < Network.exactWaitMs := by
    simp only [remaining]
    omega
  have ended := elapsed inTime short
  rw [reach] at ended
  exact ended

/-- Nothing was refused, so a datagram that was waited for is received. -/
theorem received_of_onlyWaits {ready : Channel} {result : Except Failure Datagram}
    (onlyWaits : channel.network.OnlyWaits) (opened : channel.session.isOpen)
    (budget : exchange.attemptMs < Network.exactWaitMs)
    (waited : channel.wait (exchange.remaining departure channel) = (.ok true, ready))
    (received : ready.receive exchange.receiveSize = (result, after)) :
    (∃ datagram, result = .ok datagram) ∧ channel.Still after ∧
      ∃ timeouts, channel.network.Waits after.network timeouts ∧
        (InTime channel.network.faults.wait timeouts → departure.clock ≤ channel.clock →
          channel.clock ≤ exchange.deadline departure →
          channel.clock ≤ after.clock ∧ after.clock ≤ exchange.deadline departure ∧
            forgone channel.network.faults.wait timeouts = 0) := by
  obtain ⟨still, timeouts, waits, elapsed⟩ := wait_elapsed opened budget waited
  have session := session_of_wait opened waited
  rcases result with failure | datagram
  · have dropped := (Channel.receive_error (session ▸ opened) (inbox_ne_nil opened waited)
      received).1
    exact absurd (still.onlyWaits onlyWaits) dropped.not_onlyWaits
  · have taken := Channel.receive_ok (session ▸ opened) received
    obtain ⟨_, hn⟩ := taken.network
    have none : ready.network.Waits after.network [] := by
      apply Network.Waits.of_same
      · rw [hn]
      · rw [hn]
    refine ⟨⟨datagram, rfl⟩, still.trans (.taken taken), timeouts, ?_, ?_⟩
    · have both := waits.trans none
      rwa [List.append_nil] at both
    · intro inTime lower upper
      obtain ⟨later, within, ending⟩ := elapsed inTime lower upper
      have caught := ending.resolve_right fun expired => by simp at expired
      rw [taken.clock]
      exact ⟨later, within, caught.2⟩

theorem Step.listened {ending : Option (Ending α)} (onlyWaits : channel.network.OnlyWaits)
    (opened : channel.session.isOpen) (budget : exchange.attemptMs < Network.exactWaitMs)
    (step : exchange.Step departure channel trail ending trail' after) :
    ∃ timeouts, exchange.Listened departure channel trail ending trail' after timeouts := by
  cases step with
  | unwaited waited =>
    obtain ⟨still, timeouts, waits, elapsed⟩ := wait_elapsed opened budget waited
    refine ⟨timeouts, waits, still, rfl, ?_⟩
    intro inTime lower upper
    have ended := (elapsed inTime lower upper).ending
    simp at ended
  | timedOut waited =>
    obtain ⟨still, timeouts, waits, elapsed⟩ := wait_elapsed opened budget waited
    refine ⟨timeouts, waits, still, rfl, ?_⟩
    intro inTime lower upper
    obtain ⟨later, within, ending⟩ := elapsed inTime lower upper
    have expired := ending.resolve_left fun caught => by simp at caught
    exact ⟨later, within, expired.2⟩
  | unreceived waited received =>
    obtain ⟨⟨datagram, taken⟩, -⟩ := received_of_onlyWaits onlyWaits opened budget waited received
    simp at taken
  | accepted waited received accepts =>
    obtain ⟨-, still, timeouts, waits, within⟩ :=
      received_of_onlyWaits onlyWaits opened budget waited received
    refine ⟨timeouts, waits, still, rfl, ?_⟩
    intro inTime lower upper
    obtain ⟨later, early, lost⟩ := within inTime lower upper
    exact ⟨later, early, lost, rfl, rfl, rfl, rfl⟩
  | late waited received rejects past =>
    obtain ⟨-, still, timeouts, waits, within⟩ :=
      received_of_onlyWaits onlyWaits opened budget waited received
    refine ⟨timeouts, waits, still, rfl, ?_⟩
    intro inTime lower upper
    obtain ⟨later, early, lost⟩ := within inTime lower upper
    exact ⟨later, early, by simp only; omega⟩
  | again waited received rejects early =>
    obtain ⟨-, still, timeouts, waits, within⟩ :=
      received_of_onlyWaits onlyWaits opened budget waited received
    refine ⟨timeouts, waits, still, rfl, ?_⟩
    intro inTime lower upper
    obtain ⟨later, soon, lost⟩ := within inTime lower upper
    exact ⟨later, soon, lost⟩

theorem Listened.trans {next : Channel} {middle : Trail} {ending : Ending α}
    {timeouts later : List Int}
    (h : exchange.Listened departure channel trail none middle next timeouts)
    (h' : exchange.Listened departure next middle (some ending) trail' after later) :
    exchange.Listened departure channel trail (some ending) trail' after (timeouts ++ later) := by
  refine ⟨h.waits.trans h'.waits, h.still.trans h'.still, h'.attempts.trans h.attempts, ?_⟩
  intro inTime lower upper
  obtain ⟨early, rest⟩ := inTime_append.mp inTime
  obtain ⟨forward, within, kept⟩ := h.heeded early lower upper
  rw [← h.waits.faults] at rest
  obtain ⟨forward', within', ended⟩ := h'.heeded rest (Int.le_trans lower forward) within
  have lost : forgone channel.network.faults.wait (timeouts ++ later) =
      forgone next.network.faults.wait later := by
    rw [forgone_append, kept, ← h.waits.faults, Int.zero_add]
  rw [lost, ← h.attempts]
  exact ⟨Int.le_trans forward forward', within', ended⟩

theorem listened_listen (departure : Departure) (trail : Trail)
    (onlyWaits : channel.network.OnlyWaits) (opened : channel.session.isOpen)
    (budget : exchange.attemptMs < Network.exactWaitMs) :
    ∃ timeouts, exchange.Listened departure channel trail
      (some (exchange.listen departure channel trail).1)
      (exchange.listen departure channel trail).2.1
      (exchange.listen departure channel trail).2.2 timeouts := by
  refine listen_induction (motive := fun channel trail ending trail' after =>
      channel.network.OnlyWaits → ∃ timeouts,
        exchange.Listened departure channel trail (some ending) trail' after timeouts)
    ?_ ?_ channel trail opened onlyWaits
  · intro channel trail ending trail' after opened step onlyWaits
    exact step.listened onlyWaits opened budget
  · intro channel trail trail' next ending trail'' after opened step rest onlyWaits
    obtain ⟨timeouts, first⟩ := step.listened onlyWaits opened budget
    obtain ⟨later, others⟩ := rest (first.still.onlyWaits onlyWaits)
    exact ⟨timeouts ++ later, first.trans others⟩

/-- The request of an attempt that leaves at a given time. -/
def requestAt (exchange : Exchange α) (wallOffset : Int) (attempt : Nat) (time : Int) :
    SentDatagram :=
  ⟨time, exchange.request attempt (Network.wholeSeconds (time + wallOffset)),
    exchange.query.destination⟩

/-- What attempts come to when all interruptions are in time. -/
structure OnTime (exchange : Exchange α) (channel : Channel) (attempts left : Nat) (lost : Int)
    (sent : List SentDatagram) (run : Run α) : Prop where
  departures : ∀ (k : Nat) one, sent[k]? = some one →
    channel.clock + k * exchange.attemptMs - lost ≤ one.time ∧
      one.time ≤ channel.clock + k * exchange.attemptMs
  outcome : match run.outcome with
    | .ok answer =>
      answer.attempts = attempts + sent.length ∧ sent.length ≤ left ∧
        ∃ last, sent.getLast? = some last ∧
          answer.sentAt = Network.wholeSeconds (last.time + channel.network.wallOffset) ∧
          answer.receivedAt =
            Network.wholeSeconds (run.channel.clock + channel.network.wallOffset) ∧
          answer.roundTrip = run.channel.clock - last.time ∧
          0 ≤ answer.roundTrip ∧ answer.roundTrip ≤ exchange.attemptMs
    | .error failure =>
      failure = .reported .unanswered ∧ sent.length = left ∧
        run.channel.clock + lost = channel.clock + left * exchange.attemptMs

/-- A number of attempts that are left, with the timeouts of their waits and the requests that they
send. -/
structure Paced (exchange : Exchange α) (channel : Channel) (attempts left : Nat) (run : Run α)
    (timeouts : List Int) (sent : List SentDatagram) : Prop where
  waits : channel.network.Waits run.channel.network timeouts
  record : run.channel.network.sentRev = sent.reverse ++ channel.network.sentRev
  wallOffset : run.channel.network.wallOffset = channel.network.wallOffset
  onlyWaits : run.channel.network.OnlyWaits
  requests : ∀ (k : Nat) one, sent[k]? = some one →
    one = exchange.requestAt channel.network.wallOffset (attempts + k + 1) one.time
  first : ∀ one, sent.head? = some one → one.time = channel.clock
  onTime : InTime channel.network.faults.wait timeouts →
    exchange.OnTime channel attempts left (forgone channel.network.faults.wait timeouts) sent run

/-- An attempt that has sent its request, with the timeouts of its waits. -/
structure Attended (exchange : Exchange α) (channel : Channel) (attempts : Nat)
    (ending : Ending α) (after : Channel) (timeouts : List Int) : Prop where
  waits : channel.network.Waits after.network timeouts
  record : after.network.sentRev =
    exchange.requestAt channel.network.wallOffset (attempts + 1) channel.clock ::
      channel.network.sentRev
  wallOffset : after.network.wallOffset = channel.network.wallOffset
  onlyWaits : after.network.OnlyWaits
  heeded : InTime channel.network.faults.wait timeouts →
    exchange.Heeded ⟨channel.network.wallSeconds, channel.clock⟩ channel (attempts + 1)
      (forgone channel.network.faults.wait timeouts) (some ending) after

/-- Sending a request makes no wait. -/
theorem waits_of_sentOff {data : Bytes} {destination : Endpoint}
    (off : channel.SentOff data destination after) : channel.network.Waits after.network [] := by
  apply Network.Waits.of_same
  · obtain ⟨_, _, _, _, _, _, _, hn⟩ := off.network
    rw [hn]
  · exact off.waits

theorem attended_attend {sent : Channel} {ending : Ending α}
    (onlyWaits : channel.network.OnlyWaits) (budget : exchange.attemptMs < Network.exactWaitMs)
    (sending : exchange.launch channel trail = (.ok (), sent))
    (heard : exchange.attend channel trail sent = (ending, trail', after)) :
    trail'.attempts = trail.attempts + 1 ∧
      ∃ timeouts, exchange.Attended channel trail.attempts ending after timeouts := by
  have off := Channel.send_ok sending
  have kept : sent.network.OnlyWaits := by
    intro kind
    rw [off.refusals]
    exact onlyWaits kind
  obtain ⟨timeouts, waits, still, attempts, heeded⟩ :=
    listened_listen ⟨channel.network.wallSeconds, sent.clock⟩
      (exchange.asked (beginning trail) (exchange.requestOf (beginning trail) channel) sent)
      kept off.isOpen budget
  rw [← attend, heard] at waits still attempts heeded
  refine ⟨attempts, timeouts, (waits_of_sentOff off).trans waits, ?_,
    still.wallOffset.trans off.wallOffset, still.onlyWaits kept, ?_⟩
  · rw [still.sentRev, off.sentRev]
    rfl
  · intro inTime
    rw [← off.waits] at inTime ⊢
    have span : 0 ≤ exchange.attemptMs := Int.natCast_nonneg _
    have ended := heeded inTime (Int.le_refl _) (by simp only [deadline]; omega)
    rw [off.clock] at ended
    obtain ⟨lower, upper, ending⟩ := ended
    exact ⟨off.clock ▸ lower, upper, ending⟩

/-- The last attempt, when all that is left to say is how it ended. -/
theorem Attended.paced {left attempts : Nat} {ending : Ending α} {run : Run α}
    {timeouts : List Int} (attended : exchange.Attended channel attempts ending after timeouts)
    (last : run.channel = after)
    (onTime : InTime channel.network.faults.wait timeouts →
      exchange.OnTime channel attempts left (forgone channel.network.faults.wait timeouts)
        [exchange.requestAt channel.network.wallOffset (attempts + 1) channel.clock] run) :
    exchange.Paced channel attempts left run timeouts
      [exchange.requestAt channel.network.wallOffset (attempts + 1) channel.clock] := by
  subst last
  refine ⟨attended.waits, attended.record, attended.wallOffset, attended.onlyWaits, ?_, ?_, onTime⟩
  · intro k one here
    obtain ⟨rfl, rfl⟩ : k = 0 ∧ _ = one := by simpa [List.getElem?_singleton] using here
    rfl
  · rintro one ⟨⟩
    rfl

/-- An answer comes within the time of its attempt. -/
theorem Attended.onTime {left attempts : Nat} {answer : Answer α} {timeouts : List Int}
    (attended : exchange.Attended channel attempts (.accepted answer) after timeouts)
    (inTime : InTime channel.network.faults.wait timeouts) :
    exchange.OnTime channel attempts (left + 1) (forgone channel.network.faults.wait timeouts)
      [exchange.requestAt channel.network.wallOffset (attempts + 1) channel.clock]
      ⟨.ok answer, trail', after⟩ := by
  obtain ⟨lower, upper, lost, number, sentAt, receivedAt, roundTrip⟩ := attended.heeded inTime
  have span : exchange.deadline ⟨channel.network.wallSeconds, channel.clock⟩ =
      channel.clock + exchange.attemptMs := rfl
  simp only at roundTrip
  refine ⟨?_, number, Nat.succ_le_succ (Nat.zero_le left), _, rfl, sentAt, ?_, roundTrip, ?_, ?_⟩
  · intro k one here
    obtain ⟨rfl, rfl⟩ : k = 0 ∧ _ = one := by simpa [List.getElem?_singleton] using here
    simp only [requestAt, lost]
    omega
  · rw [receivedAt, Network.wallSeconds, Network.wallMs, attended.wallOffset]
    rfl
  · omega
  · omega

/-- What attempts come to after one that ended at its deadline, less what interruptions took off. -/
theorem OnTime.cons {left attempts : Nat} {run : Run α} {lost later : Int}
    {sent : List SentDatagram} (rest : exchange.OnTime after (attempts + 1) left later sent run)
    (expired : after.clock + lost = channel.clock + exchange.attemptMs)
    (wallOffset : after.network.wallOffset = channel.network.wallOffset)
    (share : 0 ≤ lost) (share' : 0 ≤ later) :
    exchange.OnTime channel attempts (left + 1) (lost + later)
      (exchange.requestAt channel.network.wallOffset (attempts + 1) channel.clock :: sent) run := by
  obtain ⟨departures, outcome⟩ := rest
  have next : ∀ n : Nat, ((n + 1 : Nat) : Int) * exchange.attemptMs =
      n * exchange.attemptMs + exchange.attemptMs := by
    intro n
    rw [Int.natCast_add, Int.add_mul, Int.natCast_one, Int.one_mul]
  constructor
  · intro k one here
    cases k with
    | zero =>
      obtain rfl := Option.some.inj here
      simp only [requestAt]
      omega
    | succ k =>
      have := departures k one here
      have := next k
      omega
  · cases ended : run.outcome with
    | error failure =>
      rw [ended] at outcome
      obtain ⟨unanswered, number, clock⟩ := outcome
      have := next left
      exact ⟨unanswered, congrArg (· + 1) number, by omega⟩
    | ok answer =>
      rw [ended, wallOffset] at outcome
      obtain ⟨number, few, last, newest, sentAt, receivedAt, roundTrip, lower, upper⟩ := outcome
      refine ⟨?_, Nat.succ_le_succ few, last, ?_, sentAt, receivedAt, roundTrip, lower, upper⟩
      · rw [number, List.length_cons]
        omega
      · rw [List.getLast?_cons, newest]
        rfl

/-- An attempt without an answer in front of those that follow it. -/
theorem Paced.cons {left : Nat} {run : Run α} {attempts : Nat} {timeouts later : List Int}
    {sent : List SentDatagram}
    (attended : exchange.Attended channel attempts .over after timeouts)
    (rest : exchange.Paced after (attempts + 1) left run later sent) :
    exchange.Paced channel attempts (left + 1) run (timeouts ++ later)
      (exchange.requestAt channel.network.wallOffset (attempts + 1) channel.clock :: sent) := by
  obtain ⟨waits, record, wallOffset, -, heeded⟩ := attended
  refine ⟨waits.trans rest.waits, ?_, rest.wallOffset.trans wallOffset, rest.onlyWaits, ?_, ?_,
    ?_⟩
  · rw [rest.record, record, List.reverse_cons, List.append_assoc]
    rfl
  · intro k one here
    cases k with
    | zero =>
      obtain rfl := Option.some.inj here
      rfl
    | succ k =>
      have later := rest.requests k one here
      rw [wallOffset] at later
      rw [later]
      congr 1
      omega
  · rintro one ⟨⟩
    rfl
  · intro inTime
    obtain ⟨early, others⟩ := inTime_append.mp inTime
    rw [forgone_append, ← waits.faults]
    rw [← waits.faults] at others
    exact (rest.onTime others).cons (heeded early).ending wallOffset
      (forgone_nonneg _ waits.nonneg) (forgone_nonneg _ rest.waits.nonneg)

theorem paced_attempt (left : Nat) (trail : Trail) (onlyWaits : channel.network.OnlyWaits)
    (budget : exchange.attemptMs < Network.exactWaitMs) :
    ∃ timeouts sent, exchange.Paced channel trail.attempts left
      (exchange.attempt left channel trail) timeouts sent := by
  refine attempt_induction (motive := fun left channel trail run =>
      channel.network.OnlyWaits → ∃ timeouts sent,
        exchange.Paced channel trail.attempts left run timeouts sent)
    ?_ ?_ ?_ ?_ ?_ left channel trail onlyWaits
  · intro channel trail onlyWaits
    refine ⟨[], [], .refl _, rfl, rfl, onlyWaits, by simp, by simp, ?_⟩
    intro _
    refine ⟨by simp, rfl, rfl, ?_⟩
    simp
  · intro left channel trail failure after sending onlyWaits
    obtain ⟨refusal, -, dropped, -⟩ := Channel.send_error sending
    exact absurd onlyWaits dropped.not_onlyWaits
  · intro left channel trail sent answer trail' after sending heard onlyWaits
    obtain ⟨-, timeouts, attended⟩ := attended_attend onlyWaits budget sending heard
    exact ⟨timeouts, _, attended.paced rfl attended.onTime⟩
  · intro left channel trail sent failure trail' after sending heard onlyWaits
    obtain ⟨-, timeouts, attended⟩ := attended_attend onlyWaits budget sending heard
    exact ⟨timeouts, _, attended.paced rfl fun inTime => (attended.heeded inTime).ending.elim⟩
  · intro left channel trail sent trail' after run sending heard rest onlyWaits
    obtain ⟨attempts, timeouts, attended⟩ := attended_attend onlyWaits budget sending heard
    obtain ⟨later, others, paced⟩ := rest attended.onlyWaits
    rw [attempts] at paced
    exact ⟨timeouts ++ later, _, Paced.cons attended paced⟩

theorem paced_run (exchange : Exchange α) (channel : Channel)
    (onlyWaits : channel.network.OnlyWaits)
    (exact : exchange.query.budget.timeoutMs < Network.exactWaitMs) :
    ∃ timeouts sent, exchange.Paced channel 0 exchange.query.budget.attempts
      (exchange.run channel) timeouts sent := by
  have share : exchange.query.budget.attemptMs ≤ exchange.query.budget.timeoutMs :=
    Nat.div_le_self _ _
  exact paced_attempt exchange.query.budget.attempts (Trail.enter {} .idle) onlyWaits
    (Int.ofNat_lt.mpr (Nat.lt_of_le_of_lt share exact))

/-- The requests of a number of attempts, when each leaves at the deadline of the one before. -/
def schedule (exchange : Exchange α) (start : Channel) (n : Nat) : List SentDatagram :=
  (List.range n).map fun k =>
    exchange.requestAt start.network.wallOffset (k + 1) (start.clock + k * exchange.attemptMs)

@[simp] theorem length_schedule (exchange : Exchange α) (start : Channel) (n : Nat) :
    (exchange.schedule start n).length = n := by
  simp [schedule]

theorem Paced.eq_schedule {run : Run α} {timeouts : List Int} {sent : List SentDatagram}
    (paced : exchange.Paced channel 0 exchange.query.budget.attempts run timeouts sent)
    (inTime : InTime channel.network.faults.wait timeouts)
    (unrefused : Unrefused channel.network.faults.wait timeouts) :
    sent = exchange.schedule channel sent.length := by
  have departures := (paced.onTime inTime).departures
  rw [forgone_eq_zero unrefused] at departures
  apply List.ext_getElem (by simp)
  intro k here _
  have known := List.getElem?_eq_getElem here
  have time := departures k _ known
  have departed : sent[k].time = channel.clock + k * exchange.attemptMs := by omega
  rw [paced.requests k _ known, departed]
  simp [schedule]

/-- What holds of an exchange that keeps exactly to its schedule. -/
structure Regular (exchange : Exchange α) (start : Channel) (run : Run α) : Prop where
  answered : ∀ answer, run.outcome = .ok answer →
    run.channel.network.sentRev =
        (exchange.schedule start answer.attempts).reverse ++ start.network.sentRev ∧
      answer.sentAt = Network.wholeSeconds
        (start.clock + (answer.attempts - 1 : Nat) * exchange.attemptMs +
          start.network.wallOffset) ∧
      answer.receivedAt = Network.wholeSeconds (run.channel.clock + start.network.wallOffset)
  unanswered : ∀ failure, run.outcome = .error failure →
    failure = .reported .unanswered ∧
      run.channel.network.sentRev =
        (exchange.schedule start exchange.query.budget.attempts).reverse ++
          start.network.sentRev ∧
      run.channel.clock = start.clock + exchange.query.budget.attempts * exchange.attemptMs

/-- Where nothing is refused, an exchange keeps exactly to its schedule. -/
theorem regular_run (exchange : Exchange α) (channel : Channel) (quiet : channel.network.Quiet)
    (exact : exchange.query.budget.timeoutMs < Network.exactWaitMs) :
    exchange.Regular channel (exchange.run channel) := by
  obtain ⟨timeouts, sent, paced⟩ := exchange.paced_run channel quiet.refusals exact
  obtain ⟨inTime, unrefused⟩ := inTime_of_none quiet.wait timeouts
  have planned := paced.eq_schedule inTime unrefused
  obtain ⟨departures, outcome⟩ := paced.onTime inTime
  rw [forgone_eq_zero unrefused] at departures outcome
  have record := paced.record
  generalize exchange.run channel = run at record outcome ⊢
  constructor
  · intro answer ended
    rw [ended] at outcome
    obtain ⟨number, -, last, newest, sentAt, receivedAt, -⟩ := outcome
    rw [Nat.zero_add] at number
    rw [List.getLast?_eq_getElem?, ← number] at newest
    have departed : last.time =
        channel.clock + (answer.attempts - 1 : Nat) * exchange.attemptMs := by
      have := departures _ _ newest
      omega
    rw [planned, ← number] at record
    rw [departed] at sentAt
    exact ⟨record, sentAt, receivedAt⟩
  · intro failure ended
    rw [ended] at outcome
    obtain ⟨unanswered, number, clock⟩ := outcome
    rw [planned, number] at record
    exact ⟨unanswered, record, by omega⟩

end Exchange

end NtpQuery
