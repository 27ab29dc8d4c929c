import NtpQuery.Proofs.Counter
import NtpQuery.Proofs.Exchange.Ledger

/-!
# How the events of an exchange add up

Of the datagrams that an exchange receives, all but the accepted one are turned
away. So its events tell how it ended: there is one more datagram received than
turned away exactly when there is an answer, and the attempts ran out exactly
when this is the error. Rounds and attempts keep this account, and no refusal
is mistaken for a missing response.
-/

namespace NtpQuery

/-- Whether a failure says that nobody responded. -/
def Failure.isNoResponse : Failure → Bool
  | .reported error => error.isNoResponse
  | _ => false

/-- Whether an outcome is that nobody responded. -/
def isUnanswered {α : Type} : Except Failure α → Bool
  | .ok _ => false
  | .error failure => failure.isNoResponse

theorem Faults.Surfaces.isNoResponse {faults after : Faults} {refusal : Refusal}
    {message : String} {failure : Failure}
    (surfaces : faults.Surfaces (refusal.error message) after failure) :
    failure.isNoResponse = false := by
  rcases surfaces with ⟨rfl, -⟩ | ⟨rfl, -⟩
  · cases refusal <;> rfl
  · rfl

/-- How many of the events say that all attempts were made. -/
def exhaustions (events : List TimedEvent) : Nat :=
  events.countP (·.event.isExhausted)

@[simp] theorem exhaustions_nil : exhaustions [] = 0 := rfl

@[simp] theorem exhaustions_cons (event : TimedEvent) (events : List TimedEvent) :
    exhaustions (event :: events) =
      exhaustions events + if event.event.isExhausted then 1 else 0 := by
  simp [exhaustions, List.countP_cons]

@[simp] theorem exhaustions_append (events later : List TimedEvent) :
    exhaustions (events ++ later) = exhaustions events + exhaustions later :=
  List.countP_append

@[simp] theorem exhaustions_reverse (events : List TimedEvent) :
    exhaustions events.reverse = exhaustions events :=
  List.countP_reverse

/-- What the events of an exchange say of its outcome and of what was sent. -/
structure Settlement {α : Type} (kind : String) (channel after : Channel)
    (outcome : Except Failure α) (events : List TimedEvent) : Prop where
  own : ∀ event ∈ events, event.event.OfExchange kind
  sent : after.network.sentRev.length =
    channel.network.sentRev.length + Counter.sent.count events
  received : Counter.received.count events =
    Counter.discarded.count events + outcome.toBool.toNat
  exhausted : exhaustions events = (isUnanswered outcome).toNat

namespace Settlement

variable {α : Type} {kind : String} {channel after : Channel} {outcome : Except Failure α}
  {events : List TimedEvent}

theorem kindName_eq (settled : Settlement kind channel after outcome events) :
    ∀ event ∈ events, event.event.kindName = kind :=
  fun event mem => (settled.own event mem).kindName_eq

/-- An exchange is no query of its own. -/
theorem idle (settled : Settlement kind channel after outcome events) :
    Counter.queries.count events = 0 ∧ Counter.succeeded.count events = 0 ∧
      Counter.noResponse.count events = 0 ∧ Counter.transportErrors.count events = 0 ∧
      Counter.peerFailures.count events = 0 := by
  refine ⟨?_, ?_, ?_, ?_, ?_⟩
  all_goals exact Counter.count_eq_zero _ settled.own (by decide)

end Settlement

namespace Exchange

variable {α : Type} {exchange : Exchange α} {departure : Departure} {channel after : Channel}
  {trail trail' : Trail}

/-- Between two trails as many datagrams came in as were turned away, or one more with an answer.
The attempts ran out at most once. -/
structure Even (trail trail' : Trail) (answered exhausted : Bool) : Prop where
  received : Counter.received.count trail'.eventsRev + Counter.discarded.count trail.eventsRev =
    Counter.received.count trail.eventsRev + Counter.discarded.count trail'.eventsRev +
      answered.toNat
  exhausted : exhaustions trail'.eventsRev = exhaustions trail.eventsRev + exhausted.toNat

theorem Even.trans {middle : Trail} {answered exhausted : Bool} (h : Even trail middle false false)
    (h' : Even middle trail' answered exhausted) : Even trail trail' answered exhausted := by
  obtain ⟨received, run_out⟩ := h
  obtain ⟨received', run_out'⟩ := h'
  simp only [Bool.toNat_false] at received run_out
  exact ⟨by omega, by omega⟩

/-- Whether an attempt ends with an answer. -/
def Ending.isAccepted : Ending α → Bool
  | .accepted _ => true
  | _ => false

/-- An ending whose failure does not say that nobody responded. -/
def Ending.Honest : Ending α → Prop
  | .failed failure => failure.isNoResponse = false
  | _ => True

/-- A round adds a datagram to both sides, unless it is accepted. -/
theorem Step.even {ending : Option (Ending α)} (opened : channel.session.isOpen)
    (step : exchange.Step departure channel trail ending trail' after) :
    Even trail trail' (ending.any Ending.isAccepted) false ∧ ∀ last ∈ ending, last.Honest := by
  cases step with
  | unwaited waited =>
    refine ⟨⟨rfl, rfl⟩, ?_⟩
    rintro _ ⟨⟩
    obtain ⟨socket, present⟩ := Option.isSome_iff_exists.mp opened
    have nonneg : 0 ≤ exchange.remaining departure channel := Int.le_max_left 0 _
    have spec := channel.network.wait_spec socket nonneg (Int.le_refl _)
    rw [Channel.wait_eq present, Prod.mk.injEq] at waited
    rw [Ending.Honest, (spec.failure _ waited.1).1]
    rfl
  | timedOut waited =>
    refine ⟨⟨?_, ?_⟩, ?_⟩
    · simp [Event.counter?, Ending.isAccepted]
    · simp [Event.isExhausted]
    · rintro _ ⟨⟩
      trivial
  | unreceived waited received =>
    refine ⟨⟨rfl, rfl⟩, ?_⟩
    rintro _ ⟨⟩
    have session := session_of_wait opened waited
    obtain ⟨-, message, surfaces⟩ :=
      Channel.receive_error (session ▸ opened) (inbox_ne_nil opened waited) received
    exact surfaces.isNoResponse
  | accepted waited received accepts =>
    refine ⟨⟨?_, ?_⟩, ?_⟩
    · simp [heard, Event.counter?, Ending.isAccepted]
      omega
    · simp [heard, Event.isExhausted]
    · rintro _ ⟨⟩
      trivial
  | late waited received rejects past =>
    refine ⟨⟨?_, ?_⟩, ?_⟩
    · simp [heard, refusedWith, Event.counter?, Ending.isAccepted]
      omega
    · simp [heard, refusedWith, Event.isExhausted]
    · rintro _ ⟨⟩
      trivial
  | again waited received rejects early =>
    refine ⟨⟨?_, ?_⟩, by simp⟩
    · simp [heard, refusedWith, Event.counter?]
      omega
    · simp [heard, refusedWith, Event.isExhausted]

theorem even_listen (departure : Departure) (trail : Trail) (opened : channel.session.isOpen) :
    Even trail (exchange.listen departure channel trail).2.1
        (exchange.listen departure channel trail).1.isAccepted false ∧
      (exchange.listen departure channel trail).1.Honest := by
  refine listen_induction (motive := fun _ trail ending trail' _ =>
      Even trail trail' ending.isAccepted false ∧ ending.Honest) ?_ ?_ channel trail opened
  · intro channel trail ending trail' after opened step
    obtain ⟨even, honest⟩ := step.even opened
    exact ⟨even, honest _ rfl⟩
  · intro channel trail trail' next ending trail'' after opened step rest
    exact ⟨(step.even opened).1.trans rest.1, rest.2⟩

theorem even_attend {sent : Channel} {ending : Ending α}
    (sending : exchange.launch channel trail = (.ok (), sent))
    (heard : exchange.attend channel trail sent = (ending, trail', after)) :
    Even trail trail' ending.isAccepted false ∧ ending.Honest := by
  have asking : Even trail (exchange.asked (beginning trail)
      (exchange.requestOf (beginning trail) channel) sent) false false := by
    constructor
    · simp [asked, beginning, Event.counter?]
    · simp [asked, beginning, Event.isExhausted]
  obtain ⟨listened, honest⟩ := even_listen ⟨channel.network.wallSeconds, sent.clock⟩
    (exchange.asked (beginning trail) (exchange.requestOf (beginning trail) channel) sent)
    (Channel.send_ok sending).isOpen
  rw [← attend, heard] at listened honest
  exact ⟨asking.trans listened, honest⟩

theorem even_attempt (exchange : Exchange α) (left : Nat) (channel : Channel) (trail : Trail) :
    Even trail (exchange.attempt left channel trail).trail
      (exchange.attempt left channel trail).outcome.toBool
      (isUnanswered (exchange.attempt left channel trail).outcome) := by
  refine attempt_induction (motive := fun _ _ trail run =>
      Even trail run.trail run.outcome.toBool (isUnanswered run.outcome))
    ?_ ?_ ?_ ?_ ?_ left channel trail
  · intro channel trail
    constructor
    · simp [Event.counter?, Except.toBool]
    · simp [Event.isExhausted, isUnanswered, Failure.isNoResponse, QueryError.unanswered,
        QueryError.isNoResponse]
  · intro left channel trail failure after sending
    obtain ⟨refusal, -, -, message, surfaces⟩ := Channel.send_error sending
    constructor
    · simp [beginning, Except.toBool]
    · simp [beginning, isUnanswered, surfaces.isNoResponse]
  · intro left channel trail sent answer trail' after sending heard
    exact (even_attend sending heard).1
  · intro left channel trail sent failure trail' after sending heard
    obtain ⟨even, honest⟩ := even_attend sending heard
    have silent : failure.isNoResponse = false := honest
    show Even trail trail' false failure.isNoResponse
    rw [silent]
    exact even
  · intro left channel trail sent trail' after run sending heard rest
    exact (even_attend sending heard).1.trans rest

/-- The events of an exchange add up to its outcome. -/
theorem settled_run (exchange : Exchange α) (channel : Channel) :
    Settlement exchange.kindName channel (exchange.run channel).channel
      (exchange.run channel).outcome (exchange.run channel).trail.events := by
  obtain ⟨sent, got, ledger⟩ := exchange.ledger_run channel
  have even : Even (Trail.enter {} .idle) (exchange.run channel).trail
      (exchange.run channel).outcome.toBool (isUnanswered (exchange.run channel).outcome) :=
    exchange.even_attempt exchange.query.budget.attempts channel _
  refine ⟨?_, ?_, ?_, ?_⟩
  · intro event mem
    exact ledger.own event (List.mem_reverse.mp mem)
  · have sends := congrArg Counts.sent ledger.counts
    rw [ledger.sentRev, List.length_append, Nat.add_comm, Trail.events, Counter.count_reverse]
    simp only [Counts.ofEvents] at sends
    rw [← sends]
    congr 1
    apply List.countP_congr
    intro event mem
    have own := ledger.own event mem
    obtain ⟨time, event⟩ := event
    cases own <;> simp [Event.isSent, Event.counter?]
  · rw [Trail.events, Counter.count_reverse, Counter.count_reverse]
    simpa using even.received
  · rw [Trail.events, exhaustions_reverse]
    simpa using even.exhausted

end Exchange

end NtpQuery
