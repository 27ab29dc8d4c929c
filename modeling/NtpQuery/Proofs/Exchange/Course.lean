import Mathlib.Data.List.Chain
import NtpQuery.Proofs.Exchange.Round

/-!
# The course of an exchange

An exchange goes from phase to phase along fixed ways, whatever datagrams,
refusals and interruptions it meets. Its trail shows how often it sent and how
many datagrams it looked at, and its outcome follows from what it met: an
accepted datagram, a refusal, or neither of them.

`Underway` is what holds as long as neither was met. It is preserved by every
round and every attempt, and `Finished` lists the three ways out of it. There
are two more failures, which `Ended` adds. A refusal is told of by the failure
of the system alone when it refuses to close the socket, too. And a wait fails
for a time that no double holds. The time told to the system is at most what an
attempt may take and what interruptions may turn the clock back, so this is
excluded when those together can be told.
-/

namespace NtpQuery

/-- The phases that may follow a phase. -/
def Phase.next : Phase → List Phase
  | .idle => [.sending, .exhausted]
  | .sending => [.waiting]
  | .waiting => [.validating, .idle]
  | .validating => [.succeeded, .waiting, .idle]
  | .succeeded => []
  | .exhausted => []

/-- The phase in which an exchange meets a refusal. -/
def Refusal.phase : Refusal → Phase
  | .opening => .sending
  | .sending => .sending
  | .receiving => .waiting

/-- A trail that began idle, went along the ways and counted what it sent. -/
structure Trail.Lawful (trail : Trail) : Prop where
  began : trail.phasesRev.getLast? = some .idle
  chained : trail.phasesRev.IsChain fun later earlier => later ∈ earlier.next
  counted : trail.phasesRev.count .sending = trail.attempts

namespace Trail.Lawful

variable {trail : Trail}

theorem chained_cons (lawful : trail.Lawful) {phase : Phase} (next : phase ∈ trail.phase.next) :
    (phase :: trail.phasesRev).IsChain fun later earlier => later ∈ earlier.next := by
  have began := lawful.began
  cases hp : trail.phasesRev with
  | nil => simp [hp] at began
  | cons current earlier =>
    have chained := lawful.chained
    rw [hp] at chained
    simp only [Trail.phase, hp, List.headD_cons] at next
    exact List.isChain_cons_cons.mpr ⟨next, chained⟩

theorem began_cons (lawful : trail.Lawful) (phase : Phase) :
    (phase :: trail.phasesRev).getLast? = some .idle := by
  simp [List.getLast?_cons, lawful.began]

theorem enter (lawful : trail.Lawful) {phase : Phase} (next : phase ∈ trail.phase.next)
    (other : phase ≠ .sending) : (trail.enter phase).Lawful := by
  refine ⟨lawful.began_cons phase, lawful.chained_cons next, ?_⟩
  simp [other, lawful.counted]

theorem note (lawful : trail.Lawful) (time : Int) (event : Event) :
    (trail.note time event).Lawful :=
  ⟨lawful.began, lawful.chained, lawful.counted⟩

theorem beginning (lawful : trail.Lawful) (idle : trail.phase = .idle) :
    (Exchange.beginning trail).Lawful := by
  refine ⟨lawful.began_cons .sending, lawful.chained_cons ?_, ?_⟩
  · simp [idle, Phase.next]
  · simp [Exchange.beginning, lawful.counted]

end Trail.Lawful

namespace Exchange

variable {α : Type}

def Rejects (exchange : Exchange α) (datagram : Datagram) : Prop :=
  ∃ reason, exchange.accept datagram = .error reason

/-- What was received since the start, newest first, and a trail that shows it. -/
structure Tally (start channel : Channel) (trail : Trail) (got : List Datagram) : Prop where
  lawful : trail.Lawful
  received : channel.network.receivedRev = got ++ start.network.receivedRev
  validated : trail.phasesRev.count .validating = got.length

/-- An exchange that has met neither a refusal nor an answer since its start. -/
structure Underway (exchange : Exchange α) (start channel : Channel) (trail : Trail) : Prop where
  tally : ∃ got, Tally start channel trail got ∧ ∀ datagram ∈ got, exchange.Rejects datagram
  sent : ∃ sent, channel.network.sentRev = sent ++ start.network.sentRev ∧
    sent.length = trail.attempts
  refusals : channel.network.faults.refusals = start.network.faults.refusals
  close : refused channel.network.faults.close = refused start.network.faults.close
  waits : setback channel.network.faults.wait ≤ setback start.network.faults.wait

/-- The same within an attempt. The clock has not been turned back by more than
the interruptions met since the start. -/
structure Listening (exchange : Exchange α) (start : Channel) (departure : Departure)
    (channel : Channel) (trail : Trail) : Prop extends Underway exchange start channel trail where
  phase : trail.phase = .waiting
  isOpen : channel.session.isOpen
  clock : departure.clock - setback start.network.faults.wait ≤
    channel.clock - setback channel.network.faults.wait

/-- How an exchange can end. -/
inductive Finished (exchange : Exchange α) (start : Channel) : Run α → Prop
  | exhausted {trail : Trail} {channel : Channel}
      (underway : exchange.Underway start channel trail)
      (spent : exchange.query.budget.attempts ≤ trail.attempts)
      (phase : trail.phase = .exhausted) :
      Finished exchange start ⟨.error (.reported .unanswered), trail, channel⟩
  | answered {answer : Answer α} {trail : Trail} {channel : Channel} {datagram : Datagram}
      {got : List Datagram} (tally : Tally start channel trail (datagram :: got))
      (accepts : exchange.accept datagram = .ok answer.packet)
      (source : answer.source = datagram.source)
      (refusals : channel.network.faults.refusals = start.network.faults.refusals)
      (phase : trail.phase = .succeeded) :
      Finished exchange start ⟨.ok answer, trail, channel⟩
  | refused {refusal : Refusal} {message : String} {trail : Trail} {channel : Channel}
      {got : List Datagram} (tally : Tally start channel trail got)
      (rejects : ∀ datagram ∈ got, exchange.Rejects datagram)
      (spent : start.network.faults.Spent refusal channel.network.faults)
      (closed : channel.session.socket = none)
      (phase : trail.phase = refusal.phase) :
      Finished exchange start ⟨.error (.reported (refusal.error message)), trail, channel⟩

/-- How an exchange can end where closing may be refused and a time may be too long to be told. -/
inductive Ended (exchange : Exchange α) (start : Channel) : Run α → Prop
  | finished {run : Run α} (finished : exchange.Finished start run)
      (close : refused run.channel.network.faults.close = refused start.network.faults.close)
      (waits : setback run.channel.network.faults.wait ≤ setback start.network.faults.wait) :
      Ended exchange start run
  | unclosed {refusal : Refusal} {trail : Trail} {channel : Channel}
      (spent : start.network.faults.Spent refusal channel.network.faults)
      (close : refused channel.network.faults.close + 1 = refused start.network.faults.close) :
      Ended exchange start ⟨.error .system, trail, channel⟩
  | untold {trail : Trail} {channel : Channel}
      (underway : exchange.Underway start channel trail)
      (untellable : ¬ Network.Tellable (exchange.attemptMs + setback start.network.faults.wait)) :
      Ended exchange start ⟨.error .overflow, trail, channel⟩

/-- What holds when an attempt ends: either the exchange is still under way, or
it has finished. -/
def Concluded (exchange : Exchange α) (start : Channel) :
    Ending α → Trail → Channel → Prop
  | .over, trail, channel => exchange.Underway start channel trail ∧ trail.phase = .idle
  | .accepted answer, trail, channel => exchange.Ended start ⟨.ok answer, trail, channel⟩
  | .failed failure, trail, channel => exchange.Ended start ⟨.error failure, trail, channel⟩

variable {exchange : Exchange α} {start channel after : Channel} {departure : Departure}
  {trail : Trail}

theorem Underway.begin : exchange.Underway start start (Trail.enter {} .idle) where
  tally := ⟨[], ⟨⟨rfl, .singleton _, rfl⟩, rfl, rfl⟩, by simp⟩
  sent := ⟨[], rfl, rfl⟩
  refusals := rfl
  close := rfl
  waits := Int.le_refl _

/-- Where a refusal is met, an exchange that was under way ends. -/
theorem Underway.dropped (underway : exchange.Underway start channel trail) {refusal : Refusal}
    {message : String} {failure : Failure} {trail' : Trail}
    (dropped : channel.Dropped refusal after)
    (surfaces : channel.network.faults.Surfaces (refusal.error message) after.network.faults
      failure)
    (lawful : trail'.Lawful)
    (validated : trail'.phasesRev.count .validating = trail.phasesRev.count .validating)
    (phase : trail'.phase = refusal.phase) :
    exchange.Ended start ⟨.error failure, trail', after⟩ := by
  obtain ⟨⟨got, tally, rejects⟩, -, refusals, close, waits⟩ := underway
  have spent : start.network.faults.Spent refusal after.network.faults := by
    rw [Faults.Spent, ← refusals]
    exact dropped.spent
  have tally' : Tally start after trail' got :=
    ⟨lawful, dropped.receivedRev.trans tally.received, validated.trans tally.validated⟩
  rcases surfaces with ⟨rfl, same⟩ | ⟨rfl, one⟩
  · exact .finished (.refused tally' rejects spent dropped.socket phase) (same.trans close)
      (dropped.waits ▸ waits)
  · exact .unclosed spent (one.trans close)

/-- After a wait within an attempt the attempt goes on, unless the time could not be told. -/
theorem Listening.wait (listening : exchange.Listening start departure channel trail)
    {result : Except Failure Bool}
    (waited : channel.wait (exchange.remaining departure channel) = (result, after)) :
    exchange.Listening start departure after trail ∧
      ∀ failure, result = .error failure → failure = .overflow ∧
        ¬ Network.Tellable (exchange.attemptMs + setback start.network.faults.wait) := by
  obtain ⟨⟨⟨got, tally, rejects⟩, sent, refusals, close, spent⟩, phase, opened, clock⟩ := listening
  have session := session_of_wait opened waited
  obtain ⟨socket, hs⟩ := Option.isSome_iff_exists.mp opened
  have budget : 0 ≤ exchange.attemptMs := Int.natCast_nonneg _
  have saved := setback_nonneg start.network.faults.wait
  -- The time to wait and what may still turn the clock back stay below the bound.
  have within : exchange.remaining departure channel + setback channel.network.faults.wait ≤
      exchange.attemptMs + setback start.network.faults.wait := by
    simp only [remaining, deadline]
    omega
  have nonneg : 0 ≤ exchange.remaining departure channel := Int.le_max_left 0 _
  obtain ⟨⟨time, waits, faults, hn⟩, later, less, -, -, failing⟩ :=
    channel.network.wait_spec socket nonneg within
  rw [Channel.wait_eq hs, Prod.mk.injEq] at waited
  obtain ⟨rfl, rfl⟩ := waited
  have advanced : channel.clock - setback channel.network.faults.wait ≤
      (channel.network.wait socket (exchange.remaining departure channel)).2.clock -
        setback (channel.network.wait socket
          (exchange.remaining departure channel)).2.faults.wait := later
  refine ⟨⟨⟨⟨got, ⟨tally.lawful, ?_, tally.validated⟩, rejects⟩, ?_, ?_, ?_, ?_⟩, phase, opened,
    ?_⟩, failing⟩
  · simpa only [hn] using tally.received
  · simpa only [hn] using sent
  · rw [← refusals, hn]
    rfl
  · simpa only [hn] using close
  · exact Int.le_trans less spent
  · exact Int.le_trans clock advanced

/-- A received datagram is counted by the phase that looks at it. -/
theorem Tally.heard {got : List Datagram} (tally : Tally start channel trail got)
    (departure : Departure) (phase : trail.phase = .waiting) (opened : channel.session.isOpen)
    {datagram : Datagram}
    (received : channel.receive exchange.receiveSize = (.ok datagram, after)) :
    Tally start after (exchange.heard departure trail datagram after) (datagram :: got) := by
  refine ⟨(tally.lawful.note _ _).enter ?_ (by simp), ?_, ?_⟩
  · have same : (trail.note after.clock (.received exchange.kindName datagram.source
        datagram.data.length (after.clock - departure.clock))).phase = .waiting := phase
    simp [same, Phase.next]
  · rw [(Channel.receive_ok opened received).receivedRev, tally.received, List.cons_append]
  · simp [Exchange.heard, tally.validated]

theorem Tally.note {got : List Datagram} (tally : Tally start channel trail got) (time : Int)
    (event : Event) : Tally start channel (trail.note time event) got :=
  ⟨tally.lawful.note time event, tally.received, tally.validated⟩

theorem Tally.enter {got : List Datagram} (tally : Tally start channel trail got) {phase : Phase}
    (next : phase ∈ trail.phase.next) (unsent : phase ≠ .sending) (other : phase ≠ .validating) :
    Tally start channel (trail.enter phase) got := by
  refine ⟨tally.lawful.enter next unsent, tally.received, ?_⟩
  simp [other, tally.validated]

/-- A rejected datagram leaves the exchange under way, in whichever phase comes next. -/
theorem Listening.reject (listening : exchange.Listening start departure channel trail)
    {datagram : Datagram} {reason : String}
    (received : channel.receive exchange.receiveSize = (.ok datagram, after))
    (rejects : exchange.accept datagram = .error reason) {phase : Phase}
    (next : phase ∈ Phase.validating.next) (other : phase ≠ .validating) :
    exchange.Underway start after
      ((exchange.refusedWith (exchange.heard departure trail datagram after) datagram reason
        after).enter phase) := by
  obtain ⟨⟨⟨got, tally, others⟩, sent, refusals, close, spent⟩, waiting, opened, -⟩ := listening
  have taken := Channel.receive_ok opened received
  have unsent : phase ≠ .sending := by
    rintro rfl
    simp [Phase.next] at next
  refine ⟨⟨datagram :: got, ?_, ?_⟩, ?_, taken.refusals.trans refusals, ?_, ?_⟩
  · exact ((tally.heard departure waiting opened received).note _ _).enter next unsent other
  · intro seen mem
    rcases List.mem_cons.mp mem with rfl | mem
    · exact ⟨reason, rejects⟩
    · exact others seen mem
  · rw [taken.sentRev]
    exact sent
  · rw [taken.closes]
    exact close
  · rw [taken.waits]
    exact spent

/-- A round preserves what holds within an attempt, or ends the attempt properly. -/
theorem Listening.step (listening : exchange.Listening start departure channel trail)
    {ending : Option (Ending α)} {trail' : Trail}
    (step : exchange.Step departure channel trail ending trail' after) :
    match ending with
    | none => exchange.Listening start departure after trail'
    | some ending => exchange.Concluded start ending trail' after := by
  cases step with
  | unwaited waited =>
    obtain ⟨ready, failing⟩ := listening.wait waited
    obtain ⟨rfl, untellable⟩ := failing _ rfl
    exact .untold ready.toUnderway untellable
  | timedOut waited =>
    obtain ⟨⟨⟨⟨got, tally, rejects⟩, sent, refusals, close, spent⟩, waiting, -, -⟩, -⟩ :=
      listening.wait waited
    refine ⟨⟨⟨got, (tally.note _ _).enter ?_ (by simp) (by simp), rejects⟩, sent, refusals, close,
      spent⟩, rfl⟩
    have same : (trail.note after.clock
        (.attemptTimeout exchange.kindName trail.attempts)).phase = .waiting := waiting
    simp [same, Phase.next]
  | unreceived waited received =>
    have ready := (listening.wait waited).1
    obtain ⟨got, tally, -⟩ := ready.tally
    obtain ⟨dropped, message, surfaces⟩ :=
      Channel.receive_error ready.isOpen (inbox_ne_nil listening.isOpen waited) received
    exact ready.toUnderway.dropped dropped surfaces tally.lawful rfl ready.phase
  | accepted waited received accepts =>
    obtain ⟨⟨⟨⟨got, tally, rejects⟩, sent, refusals, close, spent⟩, waiting, opened, -⟩, -⟩ :=
      listening.wait waited
    have heard := tally.heard departure waiting opened received
    have taken := Channel.receive_ok opened received
    refine .finished (.answered (heard.enter ?_ (by simp) (by simp)) accepts rfl
      (taken.refusals.trans refusals) rfl) ?_ ?_
    · simp [Exchange.heard, Trail.phase, Phase.next]
    · simpa only [taken.closes] using close
    · simpa only [taken.waits] using spent
  | late waited received rejects past =>
    have ready := (listening.wait waited).1
    exact ⟨ready.reject received rejects (by simp [Phase.next]) (by simp), rfl⟩
  | again waited received rejects early =>
    have ready := (listening.wait waited).1
    have taken := Channel.receive_ok ready.isOpen received
    refine ⟨ready.reject received rejects (by simp [Phase.next]) (by simp), rfl, taken.isOpen, ?_⟩
    rw [taken.clock, taken.waits]
    exact ready.clock

theorem Listening.listen (listening : exchange.Listening start departure channel trail) :
    exchange.Concluded start (exchange.listen departure channel trail).1
      (exchange.listen departure channel trail).2.1
      (exchange.listen departure channel trail).2.2 := by
  refine listen_induction (motive := fun channel trail ending trail' after =>
      exchange.Listening start departure channel trail →
        exchange.Concluded start ending trail' after)
    ?_ ?_ channel trail listening.isOpen listening
  · intro channel trail ending trail' after opened step listening
    exact listening.step step
  · intro channel trail trail' next ending trail'' after opened step rest listening
    exact rest (listening.step step)

/-- An attempt starts to listen once its request has left. -/
theorem Underway.send (underway : exchange.Underway start channel trail)
    (idle : trail.phase = .idle) {request : Bytes}
    (sending : channel.send request exchange.query.destination = (.ok (), after)) (sentAt : Int) :
    exchange.Listening start ⟨sentAt, after.clock⟩ after
      (exchange.asked (beginning trail) request after) := by
  obtain ⟨⟨got, tally, rejects⟩, ⟨sent, ledger, counted⟩, refusals, close, spent⟩ := underway
  have off := Channel.send_ok sending
  have begun := tally.lawful.beginning idle
  refine ⟨⟨⟨got, ⟨(begun.note _ _).enter ?_ (by simp), ?_, ?_⟩, rejects⟩,
    ⟨⟨channel.clock, request, exchange.query.destination⟩ :: sent, ?_, ?_⟩,
    off.refusals.trans refusals, ?_, ?_⟩, rfl, off.isOpen, ?_⟩
  · have same : ((beginning trail).note after.clock (.sent exchange.kindName
        (beginning trail).attempts request.length exchange.sequence)).phase = .sending := rfl
    simp [same, Phase.next]
  · exact off.receivedRev.trans tally.received
  · simp [asked, beginning, tally.validated]
  · rw [off.sentRev, ledger, List.cons_append]
  · simp [asked, beginning, counted]
  · rw [off.closes]
    exact close
  · rw [off.waits]
    exact spent
  · rw [off.waits]
    simp only
    omega

/-- An attempt whose request could not be sent is the last one. -/
theorem Underway.unsent (underway : exchange.Underway start channel trail)
    (idle : trail.phase = .idle) {request : Bytes} {failure : Failure}
    (sending : channel.send request exchange.query.destination = (.error failure, after)) :
    exchange.Ended start ⟨.error failure, beginning trail, after⟩ := by
  obtain ⟨refusal, kinds, dropped, message, surfaces⟩ := Channel.send_error sending
  obtain ⟨got, tally, -⟩ := underway.tally
  refine underway.dropped dropped surfaces (tally.lawful.beginning idle) ?_ ?_
  · simp [beginning]
  · rcases kinds with rfl | rfl
    · rfl
    · rfl

/-- Listening makes no attempts. -/
theorem attempts_listen (exchange : Exchange α) (departure : Departure) (channel : Channel)
    (trail : Trail) (opened : channel.session.isOpen) :
    (exchange.listen departure channel trail).2.1.attempts = trail.attempts := by
  refine listen_induction (motive := fun _ trail _ trail' _ => trail'.attempts = trail.attempts)
    ?_ ?_ channel trail opened
  · intro _ _ _ _ _ _ step
    cases step <;> rfl
  · intro _ _ _ _ _ _ _ _ step rest
    cases step
    exact rest

theorem attempts_attend {sent : Channel} {ending : Ending α} {trail' : Trail}
    (sending : exchange.launch channel trail = (.ok (), sent))
    (heard : exchange.attend channel trail sent = (ending, trail', after)) :
    trail'.attempts = trail.attempts + 1 := by
  have count := attempts_listen exchange ⟨channel.network.wallSeconds, sent.clock⟩ sent
    (exchange.asked (beginning trail) (exchange.requestOf (beginning trail) channel) sent)
    (Channel.send_ok sending).isOpen
  rw [← attend, heard] at count
  exact count

theorem Underway.attend {sent : Channel} {ending : Ending α} {trail' : Trail}
    (underway : exchange.Underway start channel trail) (idle : trail.phase = .idle)
    (sending : exchange.launch channel trail = (.ok (), sent))
    (heard : exchange.attend channel trail sent = (ending, trail', after)) :
    exchange.Concluded start ending trail' after := by
  have concluded := (underway.send idle sending channel.network.wallSeconds).listen
  rw [← Exchange.attend, heard] at concluded
  exact concluded

theorem Underway.attempt {left : Nat} (underway : exchange.Underway start channel trail)
    (idle : trail.phase = .idle)
    (share : trail.attempts + left = exchange.query.budget.attempts) :
    exchange.Ended start (exchange.attempt left channel trail) ∧
      (exchange.attempt left channel trail).trail.attempts ≤ exchange.query.budget.attempts := by
  refine attempt_induction (motive := fun left channel trail run =>
      exchange.Underway start channel trail → trail.phase = .idle →
      trail.attempts + left = exchange.query.budget.attempts →
      exchange.Ended start run ∧ run.trail.attempts ≤ exchange.query.budget.attempts)
    ?_ ?_ ?_ ?_ ?_ left channel trail underway idle share
  · intro channel trail underway idle share
    obtain ⟨⟨got, tally, rejects⟩, sent, refusals, close, spent⟩ := underway
    refine ⟨.finished (.exhausted ⟨⟨got, ?_, rejects⟩, sent, refusals, close, spent⟩ ?_ rfl)
      close spent, ?_⟩
    · exact (tally.enter (by simp [idle, Phase.next]) (by simp) (by simp)).note _ _
    · simp only [Trail.note_attempts, Trail.enter_attempts]
      omega
    · simp only [Trail.note_attempts, Trail.enter_attempts]
      omega
  · intro left channel trail failure after sending underway idle share
    refine ⟨underway.unsent idle sending, ?_⟩
    simp only [beginning, Trail.enter_attempts]
    omega
  · intro left channel trail sent answer trail' after sending heard underway idle share
    have count := attempts_attend sending heard
    refine ⟨underway.attend idle sending heard, ?_⟩
    simp only
    omega
  · intro left channel trail sent failure trail' after sending heard underway idle share
    have count := attempts_attend sending heard
    refine ⟨underway.attend idle sending heard, ?_⟩
    simp only
    omega
  · intro left channel trail sent trail' after run sending heard rest underway idle share
    have count := attempts_attend sending heard
    obtain ⟨underway', idle'⟩ := underway.attend idle sending heard
    exact rest underway' idle' (by omega)

theorem ended_run (exchange : Exchange α) (channel : Channel) :
    exchange.Ended channel (exchange.run channel) ∧
      (exchange.run channel).trail.attempts ≤ exchange.query.budget.attempts :=
  Underway.begin.attempt rfl (Nat.zero_add _)

/-- Where closing works and every time can be told, an exchange finishes. -/
theorem finished_run (exchange : Exchange α) (channel : Channel)
    (closing : refused channel.network.faults.close = 0)
    (tellable : Network.Tellable (exchange.attemptMs + setback channel.network.faults.wait)) :
    exchange.Finished channel (exchange.run channel) ∧
      (exchange.run channel).trail.attempts ≤ exchange.query.budget.attempts := by
  obtain ⟨ended, bounded⟩ := ended_run exchange channel
  refine ⟨?_, bounded⟩
  generalize exchange.run channel = run at ended
  cases ended with
  | finished finished => exact finished
  | unclosed spent close => omega
  | untold underway untellable => exact absurd tellable untellable

/-- Where nothing is refused there is an answer or no response. -/
theorem finished_quiet (exchange : Exchange α) (channel : Channel)
    (quiet : channel.network.Quiet)
    (exact : exchange.query.budget.timeoutMs < Network.exactWaitMs) :
    (∃ answer, (exchange.run channel).outcome = .ok answer) ∨
      (exchange.run channel).outcome = .error (.reported .unanswered) := by
  have share : exchange.query.budget.attemptMs ≤ exchange.query.budget.timeoutMs :=
    Nat.div_le_self _ _
  have bound : exchange.attemptMs + setback channel.network.faults.wait <
      Network.exactWaitMs := by
    rw [setback_of_none quiet.wait, Int.add_zero]
    exact Int.ofNat_lt.mpr (Nat.lt_of_le_of_lt share exact)
  have finished := (finished_run exchange channel quiet.close (Network.tellable_of_lt bound)).1
  generalize exchange.run channel = run at finished ⊢
  cases finished with
  | exhausted => exact .inr rfl
  | answered => exact .inl ⟨_, rfl⟩
  | refused tally rejects spent => exact absurd quiet spent.not_quiet

/-- What is true of an exchange when it is over, with the datagrams that it
received, newest first. -/
structure Course (exchange : Exchange α) (start : Channel) (got : List Datagram) (run : Run α) :
    Prop where
  received : run.channel.network.receivedRev = got ++ start.network.receivedRev
  began : run.trail.phases.head? = some .idle
  chained : run.trail.phases.IsChain fun phase following => following ∈ phase.next
  counted : run.trail.attempts = run.trail.phases.count .sending
  bounded : run.trail.attempts ≤ exchange.query.budget.retries + 1
  validated : run.trail.phases.count .validating = got.length
  /-- There is an answer exactly when the last datagram is accepted. -/
  answered : (∃ answer, run.outcome = .ok answer) ↔
    ∃ last packet, got.head? = some last ∧ exchange.accept last = .ok packet
  /-- The answer is that datagram. -/
  answer : ∀ answer, run.outcome = .ok answer → run.trail.phase = .succeeded ∧
    ∃ last, got.head? = some last ∧ exchange.accept last = .ok answer.packet ∧
      answer.source = last.source
  /-- Without a refusal and an accepted datagram every attempt is made. -/
  exhausted : run.channel.network.faults.refusals = start.network.faults.refusals →
    (∀ datagram ∈ got, exchange.Rejects datagram) →
    (∃ sent, run.channel.network.sentRev = sent ++ start.network.sentRev ∧
      sent.length = exchange.query.budget.retries + 1) ∧
    run.trail.phase = .exhausted ∧ run.outcome = .error (.reported .unanswered)
  /-- The first refusal that is met ends the exchange. -/
  refused : run.channel.network.faults.refusals ≠ start.network.faults.refusals →
    ∃ refusal message, start.network.faults.Spent refusal run.channel.network.faults ∧
      run.outcome = .error (.reported (refusal.error message)) ∧
      run.trail.phase = refusal.phase ∧ run.channel.session.socket = none

theorem Tally.phases_spec {got : List Datagram} (tally : Tally start channel trail got) :
    trail.phases.head? = some .idle ∧
      (trail.phases.IsChain fun phase following => following ∈ phase.next) ∧
      trail.attempts = trail.phases.count .sending ∧
      trail.phases.count .validating = got.length := by
  obtain ⟨⟨began, chained, counted⟩, -, validated⟩ := tally
  refine ⟨?_, ?_, ?_, ?_⟩
  · rw [Trail.phases, List.head?_reverse, began]
  · exact List.isChain_reverse.mpr chained
  · rw [Trail.phases, List.count_reverse, counted]
  · rw [Trail.phases, List.count_reverse, validated]

theorem not_rejects_of_accepts {datagram : Datagram} {packet : α}
    (accepts : exchange.accept datagram = .ok packet) : ¬ exchange.Rejects datagram := by
  rintro ⟨reason, rejects⟩
  simp [accepts] at rejects

/-- Whatever an exchange meets, it keeps to its phases and its attempts, and its
outcome is what it met. -/
theorem course_run (exchange : Exchange α) (channel : Channel)
    (closing : refused channel.network.faults.close = 0)
    (tellable : Network.Tellable (exchange.attemptMs + setback channel.network.faults.wait)) :
    ∃ got, exchange.Course channel got (exchange.run channel) := by
  obtain ⟨finished, bounded⟩ := finished_run exchange channel closing tellable
  generalize exchange.run channel = run at finished bounded ⊢
  have newest : ∀ {got : List Datagram}, (∀ datagram ∈ got, exchange.Rejects datagram) →
      ¬ ∃ last packet, got.head? = some last ∧ exchange.accept last = .ok packet := by
    rintro got rejects ⟨last, packet, first, accepts⟩
    exact not_rejects_of_accepts accepts (rejects last (List.mem_of_head? first))
  cases finished with
  | exhausted underway spent phase =>
    obtain ⟨⟨got, tally, rejects⟩, ⟨sent, ledger, counted⟩, refusals, -, -⟩ := underway
    obtain ⟨began, chained, sends, validated⟩ := tally.phases_spec
    refine ⟨got, tally.received, began, chained, sends, bounded, validated, ?_, by simp,
      fun _ _ => ⟨⟨sent, ledger, ?_⟩, phase, rfl⟩, fun met => absurd refusals met⟩
    · exact iff_of_false (by simp) (newest rejects)
    · rw [counted]
      exact Nat.le_antisymm bounded spent
  | answered tally accepts source refusals phase =>
    obtain ⟨began, chained, sends, validated⟩ := tally.phases_spec
    refine ⟨_, tally.received, began, chained, sends, bounded, validated, ?_, ?_, ?_,
      fun met => absurd refusals met⟩
    · exact iff_of_true ⟨_, rfl⟩ ⟨_, _, rfl, accepts⟩
    · rintro answer ⟨⟩
      exact ⟨phase, _, rfl, accepts, source⟩
    · intro _ rejects
      exact absurd (rejects _ List.mem_cons_self) (not_rejects_of_accepts accepts)
  | @refused refusal _ _ _ _ tally rejects spent closed phase =>
    obtain ⟨began, chained, sends, validated⟩ := tally.phases_spec
    refine ⟨_, tally.received, began, chained, sends, bounded, validated, ?_, by simp, ?_,
      fun _ => ⟨_, _, spent, rfl, phase, closed⟩⟩
    · exact iff_of_false (by simp) (newest rejects)
    · intro same
      have one := spent refusal
      simp [same] at one

/-- Two attempts without any time, a clock that is turned back and a datagram that
is turned away. -/
theorem course_run_without_time :
    let exchange : Exchange Endpoint :=
      { query := { destination := ⟨"10.0.0.1", 123⟩, kind := .time, budget := ⟨1, 1, by decide⟩ }
        request := fun _ _ => [1]
        accept := fun datagram =>
          if datagram.data = [2] then .ok datagram.source else .error "other" }
    let channel : Channel :=
      { session := {}
        network :=
          { script := [[⟨0, ⟨[3], ⟨"10.0.0.1", 123⟩⟩⟩]]
            faults := { wait := [some (.interrupted (-5)), none, some .refused] } } }
    (refused channel.network.faults.close = 0 ∧
        Network.Tellable (exchange.attemptMs + setback channel.network.faults.wait)) ∧
      ∃ got, exchange.Course channel got (exchange.run channel) :=
  ⟨⟨by decide, Network.tellable_of_lt (by decide)⟩,
    course_run _ _ (by decide) (Network.tellable_of_lt (by decide))⟩

end Exchange

end NtpQuery
