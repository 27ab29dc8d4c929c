import NtpQuery.Proofs.EventLog.Entry
import NtpQuery.Proofs.Exchange.Course

/-!
# What the events of an exchange measure

Events tell times, sizes and numbers of attempts. Where the clock is not turned
back, the events of an exchange lie between its start and its end, and so does
every round trip that they tell: an attempt departs when its request has left,
which is within the exchange. The answer has the round trip of the datagram that
was accepted. What else events tell is bounded by the numbers of the exchange,
its attempts and the sizes of its datagrams.
-/

namespace NtpQuery

/-- The round-trip time of a datagram or of an answer. -/
def Event.measured? : Event → Option Int
  | .received _ _ _ roundTrip => some roundTrip
  | .answered _ roundTrip _ => some roundTrip
  | _ => none

theorem Event.measured?_of_roundTrip? {event : Event} {time : Int}
    (told : event.roundTrip? = some time) : event.measured? = some time := by
  cases event with
  | received => exact told
  | _ => simp [roundTrip?] at told

/-- The event happened between two times of the clock, and no round trip of it takes longer; it
tells no other number beyond a limit. -/
structure TimedEvent.Between (event : TimedEvent) (first last : Int) (limit : Nat) : Prop where
  earliest : first ≤ event.time
  latest : event.time ≤ last
  roundTrip : ∀ time, event.event.measured? = some time → 0 ≤ time ∧ time ≤ last - first
  numbers : ∀ n ∈ event.event.numbers, n.natAbs ≤ limit

namespace TimedEvent

variable {event : TimedEvent} {first last first' last' : Int} {limit limit' : Nat}

theorem Between.mono (between : event.Between first last limit) (earlier : first' ≤ first)
    (later : last ≤ last') (large : limit ≤ limit') : event.Between first' last' limit' := by
  obtain ⟨earliest, latest, roundTrip, numbers⟩ := between
  refine ⟨by omega, by omega, ?_, fun n mem => Nat.le_trans (numbers n mem) large⟩
  intro time told
  have := roundTrip time told
  omega

/-- An event that tells neither a round trip nor a number. -/
theorem Between.of_plain {time : Int} {event : Event} (earliest : first ≤ time) (latest : time ≤ last)
    (roundTrip : event.measured? = none) (numbers : event.numbers = []) :
    (⟨time, event⟩ : TimedEvent).Between first last limit :=
  ⟨earliest, latest, by simp [roundTrip], by simp [numbers]⟩

end TimedEvent

namespace Exchange

variable {α : Type} {exchange : Exchange α} {departure : Departure} {channel after : Channel}
  {trail trail' : Trail} {first : Int} {limit : Nat}

/-- No number of an exchange is beyond a limit. -/
structure Fits (exchange : Exchange α) (limit : Nat) : Prop where
  attempts : exchange.query.budget.attempts ≤ limit
  request : ∀ attempt now, (exchange.request attempt now).length ≤ limit
  received : 0 ≤ exchange.receiveSize ∧ exchange.receiveSize ≤ limit
  sequence : ∀ n ∈ exchange.sequence, n.natAbs ≤ limit

/-- The events that the second trail has beside those of the first. -/
def Adds (trail trail' : Trail) (first last : Int) (limit : Nat) : Prop :=
  ∀ event ∈ trail'.eventsRev, event ∈ trail.eventsRev ∨ event.Between first last limit

theorem Adds.refl (trail : Trail) (first last : Int) (limit : Nat) :
    Adds trail trail first last limit :=
  fun _ mem => .inl mem

theorem Adds.mono {first' last last' : Int} (h : Adds trail trail' first' last limit)
    (earlier : first ≤ first') (later : last ≤ last') : Adds trail trail' first last' limit :=
  fun event mem => (h event mem).imp_right fun between =>
    between.mono earlier later (Nat.le_refl _)

theorem Adds.trans {middle : Trail} {last : Int} (h : Adds trail middle first last limit)
    (h' : Adds middle trail' first last limit) : Adds trail trail' first last limit := by
  intro event mem
  rcases h' event mem with earlier | between
  · exact h event earlier
  · exact .inr between

/-- One event more. -/
theorem Adds.note {last : Int} (h : Adds trail trail' first last limit) {time : Int}
    {event : Event} (between : (⟨time, event⟩ : TimedEvent).Between first last limit) :
    Adds trail (trail'.note time event) first last limit := by
  intro other mem
  rcases List.mem_cons.mp mem with rfl | mem
  · exact .inr between
  · exact h other mem

/-- Entering a phase tells nothing. -/
theorem Adds.enter {last : Int} (h : Adds trail trail' first last limit) (phase : Phase) :
    Adds trail (trail'.enter phase) first last limit :=
  h

/-- What is received is as large as it may be at most. -/
theorem Fits.size_le (fits : exchange.Fits limit) {datagram : Datagram}
    (taken : channel.Taken exchange.receiveSize datagram after) :
    datagram.data.length ≤ limit := by
  obtain ⟨arrival, -, rfl⟩ := taken.inbox
  obtain ⟨size, same⟩ := Int.eq_ofNat_of_zero_le fits.received.1
  have large := fits.received.2
  rw [same] at large ⊢
  rw [Datagram.data_cut, List.length_take]
  omega

/-- A datagram that was heard took its round trip since the departure. -/
theorem Adds.heard (fits : exchange.Fits limit) {datagram : Datagram} {ready : Channel}
    (taken : ready.Taken exchange.receiveSize datagram after)
    (departed : departure.clock ≤ after.clock) :
    Adds trail (exchange.heard departure trail datagram after) departure.clock after.clock
      limit := by
  refine ((Adds.refl trail _ after.clock _).note ⟨departed, Int.le_refl _, ?_, ?_⟩).enter _
  · intro time told
    obtain rfl := Option.some.inj told
    omega
  · simpa [Event.numbers] using fits.size_le taken

theorem Step.adds {ending : Option (Ending α)} (fits : exchange.Fits limit)
    (opened : channel.session.isOpen)
    (step : exchange.Step departure channel trail ending trail' after)
    (forward : setback channel.network.faults.wait = 0)
    (departed : departure.clock ≤ channel.clock) (counted : trail.attempts ≤ limit) :
    Adds trail trail' departure.clock after.clock limit := by
  have later : channel.clock ≤ after.clock :=
    (((Carried.steady exchange).step opened step).forward forward).2
  have departed' : departure.clock ≤ after.clock := Int.le_trans departed later
  have taking : ∀ {ready : Channel} {datagram : Datagram},
      channel.wait (exchange.remaining departure channel) = (.ok true, ready) →
      ready.receive exchange.receiveSize = (.ok datagram, after) →
      ready.Taken exchange.receiveSize datagram after := by
    intro ready datagram waited received
    exact Channel.receive_ok (session_of_wait opened waited ▸ opened) received
  cases step with
  | unwaited => exact .refl trail _ _ _
  | timedOut =>
    refine ((Adds.refl trail _ _ _).note ⟨departed', Int.le_refl _, ?_, ?_⟩).enter _
    · simp [Event.measured?]
    · simpa [Event.numbers] using counted
  | unreceived => exact .refl trail _ _ _
  | accepted waited received => exact (Adds.heard fits (taking waited received) departed').enter _
  | late waited received =>
    exact ((Adds.heard fits (taking waited received) departed').note
      (.of_plain departed' (Int.le_refl _) rfl rfl)).enter _
  | again waited received =>
    exact ((Adds.heard fits (taking waited received) departed').note
      (.of_plain departed' (Int.le_refl _) rfl rfl)).enter _

theorem adds_listen (fits : exchange.Fits limit) (departure : Departure) (channel : Channel)
    (trail : Trail) (opened : channel.session.isOpen)
    (forward : setback channel.network.faults.wait = 0)
    (departed : departure.clock ≤ channel.clock) (counted : trail.attempts ≤ limit) :
    Adds trail (exchange.listen departure channel trail).2.1 departure.clock
      (exchange.listen departure channel trail).2.2.clock limit := by
  refine (listen_induction
    (motive := fun channel trail _ trail' after => setback channel.network.faults.wait = 0 →
      departure.clock ≤ channel.clock → trail.attempts ≤ limit →
      channel.clock ≤ after.clock ∧ Adds trail trail' departure.clock after.clock limit)
    ?_ ?_ channel trail opened forward departed counted).2
  · intro channel trail ending trail' after opened step forward departed counted
    exact ⟨(((Carried.steady exchange).step opened step).forward forward).2,
      step.adds fits opened forward departed counted⟩
  · intro channel trail trail' next ending trail'' after opened step rest forward departed counted
    obtain ⟨forward', later⟩ := ((Carried.steady exchange).step opened step).forward forward
    have attempts : trail'.attempts = trail.attempts := by
      cases step
      rfl
    obtain ⟨later', others⟩ :=
      rest forward' (Int.le_trans departed later) (attempts ▸ counted)
    have first := step.adds fits opened forward departed counted
    exact ⟨Int.le_trans later later', (first.mono (Int.le_refl _) later').trans others⟩

theorem adds_attend (fits : exchange.Fits limit) {sent : Channel} {ending : Ending α}
    (sending : exchange.launch channel trail = (.ok (), sent))
    (heard : exchange.attend channel trail sent = (ending, trail', after))
    (forward : setback channel.network.faults.wait = 0) (counted : trail.attempts + 1 ≤ limit) :
    Adds trail trail' channel.clock after.clock limit := by
  have off := Channel.send_ok sending
  have same : sent.clock = channel.clock := off.clock
  have asking : Adds trail (exchange.asked (beginning trail)
      (exchange.requestOf (beginning trail) channel) sent) channel.clock channel.clock limit := by
    refine (((Adds.refl trail _ _ _).enter .sending).note
      ⟨Int.le_of_eq same.symm, Int.le_of_eq same, ?_, ?_⟩).enter .waiting
    · simp [Event.measured?]
    · simp only [Event.numbers, List.mem_cons, Option.mem_toList]
      rintro n (rfl | rfl | mem)
      · exact counted
      · exact fits.request _ _
      · exact fits.sequence n mem
  have listened := adds_listen fits ⟨channel.network.wallSeconds, sent.clock⟩ sent
    (exchange.asked (beginning trail) (exchange.requestOf (beginning trail) channel) sent)
    off.isOpen (by rw [off.waits]; exact forward) (Int.le_refl _) counted
  have later := ((Carried.steady exchange).attempting sending heard).forward forward
  rw [← attend, heard, same] at listened
  exact (asking.mono (Int.le_refl _) later.2).trans listened

theorem adds_attempt (fits : exchange.Fits limit) (left : Nat) (channel : Channel) (trail : Trail)
    (forward : setback channel.network.faults.wait = 0) (counted : trail.attempts + left ≤ limit) :
    Adds trail (exchange.attempt left channel trail).trail channel.clock
      (exchange.attempt left channel trail).channel.clock limit := by
  refine (attempt_induction (motive := fun left channel trail run =>
      setback channel.network.faults.wait = 0 → trail.attempts + left ≤ limit →
      channel.clock ≤ run.channel.clock ∧
        Adds trail run.trail channel.clock run.channel.clock limit)
    ?_ ?_ ?_ ?_ ?_ left channel trail forward counted).2
  · intro channel trail forward counted
    refine ⟨Int.le_refl _, (Adds.refl trail _ _ _).enter .exhausted |>.note
      ⟨Int.le_refl _, Int.le_refl _, ?_, ?_⟩⟩
    · simp [Event.measured?]
    · simpa [Event.numbers] using counted
  · intro left channel trail failure after sending forward counted
    exact ⟨(((Carried.steady exchange).sending sending).forward forward).2,
      (Adds.refl trail _ _ _).enter .sending⟩
  · intro left channel trail sent answer trail' after sending heard forward counted
    exact ⟨(((Carried.steady exchange).attempting sending heard).forward forward).2,
      adds_attend fits sending heard forward (by omega)⟩
  · intro left channel trail sent failure trail' after sending heard forward counted
    exact ⟨(((Carried.steady exchange).attempting sending heard).forward forward).2,
      adds_attend fits sending heard forward (by omega)⟩
  · intro left channel trail sent trail' after run sending heard rest forward counted
    obtain ⟨forward', later⟩ :=
      ((Carried.steady exchange).attempting sending heard).forward forward
    have attempts := attempts_attend sending heard
    obtain ⟨later', others⟩ := rest forward' (by omega)
    have attended := adds_attend fits sending heard forward (by omega)
    exact ⟨Int.le_trans later later',
      (attended.mono (Int.le_refl _) later').trans (others.mono later (Int.le_refl _))⟩

/-- The events of an exchange lie between its start and its end. -/
theorem between_run (fits : exchange.Fits limit) (channel : Channel)
    (forward : setback channel.network.faults.wait = 0) :
    ∀ event ∈ (exchange.run channel).trail.events,
      event.Between channel.clock (exchange.run channel).channel.clock limit := by
  intro event mem
  have adds := adds_attempt fits exchange.query.budget.attempts channel (Trail.enter {} .idle)
    forward (by simpa using fits.attempts)
  rcases adds event (List.mem_reverse.mp mem) with earlier | between
  · simp at earlier
  · exact between

theorem roundTrip_listen (departure : Departure) (channel : Channel) (trail : Trail)
    (opened : channel.session.isOpen) {answer : Answer α}
    (accepted : (exchange.listen departure channel trail).1 = .accepted answer) :
    answer.roundTrip = (exchange.listen departure channel trail).2.2.clock - departure.clock := by
  refine listen_induction (motive := fun _ _ ending _ after => ∀ answer,
      ending = .accepted answer → answer.roundTrip = after.clock - departure.clock)
    ?_ ?_ channel trail opened answer accepted
  · rintro channel trail ending trail' after opened step answer rfl
    cases step with
    | accepted => rfl
  · intro channel trail trail' next ending trail'' after opened step rest answer accepted
    exact rest answer accepted

/-- The round trip of an answer is within the exchange. -/
theorem roundTrip_run (exchange : Exchange α) (channel : Channel)
    (forward : setback channel.network.faults.wait = 0) {answer : Answer α}
    (outcome : (exchange.run channel).outcome = .ok answer) :
    0 ≤ answer.roundTrip ∧
      answer.roundTrip ≤ (exchange.run channel).channel.clock - channel.clock := by
  refine attempt_induction (motive := fun _ channel _ run =>
      setback channel.network.faults.wait = 0 → ∀ answer, run.outcome = .ok answer →
        0 ≤ answer.roundTrip ∧ answer.roundTrip ≤ run.channel.clock - channel.clock)
    ?_ ?_ ?_ ?_ ?_ _ channel _ forward answer outcome
  · simp
  · simp
  · rintro left channel trail sent answer trail' after sending heard forward _ ⟨⟩
    have off := Channel.send_ok sending
    have listened := roundTrip_listen ⟨channel.network.wallSeconds, sent.clock⟩ sent
      (exchange.asked (beginning trail) (exchange.requestOf (beginning trail) channel) sent)
      off.isOpen (congrArg Prod.fst heard)
    rw [← attend, heard] at listened
    have same : sent.clock = channel.clock := off.clock
    have later := ((Carried.steady exchange).attempting sending heard).forward forward
    simp only at listened ⊢
    omega
  · simp
  · intro left channel trail sent trail' after run sending heard rest forward answer outcome
    obtain ⟨forward', later⟩ :=
      ((Carried.steady exchange).attempting sending heard).forward forward
    have trip := rest forward' answer outcome
    omega

end Exchange

end NtpQuery
