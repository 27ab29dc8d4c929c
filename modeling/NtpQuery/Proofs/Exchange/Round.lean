import NtpQuery.Exchange
import NtpQuery.Proofs.Session.Operation

/-!
# Rounds and attempts

A round of listening goes one of six ways, and `Step` has one constructor for
each. Listening is a sequence of rounds, and an exchange a sequence of
attempts. `listen_induction` and `attempt_induction` say so once; whatever
holds of a whole exchange is proved by them from what one round and one
attempt do.

`Carried` is the case where only the channel matters: a relation that sending,
waiting and receiving bring about holds between the channels before and after
an exchange.
-/

namespace NtpQuery.Exchange

variable {α : Type} {exchange : Exchange α} {departure : Departure}

def deadline (exchange : Exchange α) (departure : Departure) : Int :=
  departure.clock + exchange.attemptMs

/-- The time that is left to an attempt. -/
def remaining (exchange : Exchange α) (departure : Departure) (channel : Channel) : Int :=
  max 0 (exchange.deadline departure - channel.clock)

/-- The trail of an attempt that is about to send its request. -/
def beginning (trail : Trail) : Trail :=
  { trail with attempts := trail.attempts + 1 }.enter .sending

/-- The request of the attempt that a trail has begun. -/
def requestOf (exchange : Exchange α) (trail : Trail) (channel : Channel) : Bytes :=
  exchange.request trail.attempts channel.network.wallSeconds

/-- The trail of an attempt whose request has left. -/
def asked (exchange : Exchange α) (trail : Trail) (request : Bytes) (channel : Channel) : Trail :=
  (trail.note channel.clock
    (.sent exchange.kindName trail.attempts request.length exchange.sequence)).enter .waiting

/-- The trail of an attempt that has received a datagram. -/
def heard (exchange : Exchange α) (departure : Departure) (trail : Trail) (datagram : Datagram)
    (channel : Channel) : Trail :=
  (trail.note channel.clock
    (.received exchange.kindName datagram.source datagram.data.length
      (channel.clock - departure.clock))).enter .validating

/-- The trail of an attempt that has turned a datagram away. -/
def refusedWith (exchange : Exchange α) (trail : Trail) (datagram : Datagram) (reason : String)
    (channel : Channel) : Trail :=
  trail.note channel.clock (.discarded exchange.kindName datagram.source reason)

/-- Sends the request of the attempt that follows a trail. -/
def launch (exchange : Exchange α) (channel : Channel) (trail : Trail) :
    Except Failure Unit × Channel :=
  channel.send (exchange.requestOf (beginning trail) channel) exchange.query.destination

/-- Listens in that attempt once its request has left. -/
def attend (exchange : Exchange α) (channel : Channel) (trail : Trail) (sent : Channel) :
    Ending α × Trail × Channel :=
  exchange.listen ⟨channel.network.wallSeconds, sent.clock⟩ sent
    (exchange.asked (beginning trail) (exchange.requestOf (beginning trail) channel) sent)

/-- The answer that a packet is in the given attempt. -/
def answerOf (departure : Departure) (trail : Trail) (datagram : Datagram) (packet : α)
    (channel : Channel) : Answer α where
  packet
  source := datagram.source
  attempts := trail.attempts
  sentAt := departure.sentAt
  receivedAt := channel.network.wallSeconds
  roundTrip := channel.clock - departure.clock

/-- How a round can go. -/
inductive Step (exchange : Exchange α) (departure : Departure) (channel : Channel)
    (trail : Trail) : Option (Ending α) → Trail → Channel → Prop
  | unwaited {failure : Failure} {after : Channel}
      (waited : channel.wait (exchange.remaining departure channel) = (.error failure, after)) :
      Step exchange departure channel trail (some (.failed failure)) trail after
  | timedOut {after : Channel}
      (waited : channel.wait (exchange.remaining departure channel) = (.ok false, after)) :
      Step exchange departure channel trail (some .over)
        ((trail.note after.clock
          (.attemptTimeout exchange.kindName trail.attempts)).enter .idle) after
  | unreceived {failure : Failure} {ready after : Channel}
      (waited : channel.wait (exchange.remaining departure channel) = (.ok true, ready))
      (received : ready.receive exchange.receiveSize = (.error failure, after)) :
      Step exchange departure channel trail (some (.failed failure)) trail after
  | accepted {ready after : Channel} {datagram : Datagram} {packet : α}
      (waited : channel.wait (exchange.remaining departure channel) = (.ok true, ready))
      (received : ready.receive exchange.receiveSize = (.ok datagram, after))
      (accepts : exchange.accept datagram = .ok packet) :
      Step exchange departure channel trail
        (some (.accepted
          (answerOf departure (exchange.heard departure trail datagram after) datagram packet
            after)))
        ((exchange.heard departure trail datagram after).enter .succeeded) after
  | late {ready after : Channel} {datagram : Datagram} {reason : String}
      (waited : channel.wait (exchange.remaining departure channel) = (.ok true, ready))
      (received : ready.receive exchange.receiveSize = (.ok datagram, after))
      (rejects : exchange.accept datagram = .error reason)
      (past : exchange.deadline departure ≤ after.clock) :
      Step exchange departure channel trail (some .over)
        ((exchange.refusedWith (exchange.heard departure trail datagram after) datagram reason
          after).enter .idle) after
  | again {ready after : Channel} {datagram : Datagram} {reason : String}
      (waited : channel.wait (exchange.remaining departure channel) = (.ok true, ready))
      (received : ready.receive exchange.receiveSize = (.ok datagram, after))
      (rejects : exchange.accept datagram = .error reason)
      (early : after.clock < exchange.deadline departure) :
      Step exchange departure channel trail none
        ((exchange.refusedWith (exchange.heard departure trail datagram after) datagram reason
          after).enter .waiting) after

theorem step_round (exchange : Exchange α) (departure : Departure) (channel : Channel)
    (trail : Trail) :
    exchange.Step departure channel trail (exchange.round departure channel trail).1
      (exchange.round departure channel trail).2.1
      (exchange.round departure channel trail).2.2 := by
  rw [round]
  cases waited : channel.wait (exchange.remaining departure channel) with
  | mk result ready =>
    have expanded := waited
    simp only [remaining, deadline] at expanded
    simp only [expanded]
    cases result with
    | error failure => exact .unwaited waited
    | ok arrived =>
      cases arrived with
      | false => exact .timedOut waited
      | true =>
        simp only
        cases received : ready.receive exchange.receiveSize with
        | mk result after =>
          cases result with
          | error failure => exact .unreceived waited received
          | ok datagram =>
            cases accepts : exchange.accept datagram with
            | ok packet =>
              simp only [accepts]
              exact .accepted waited received accepts
            | error reason =>
              simp only [accepts]
              by_cases past : exchange.deadline departure ≤ after.clock
              · have here : departure.clock + exchange.attemptMs ≤ after.clock := past
                simp only [if_pos here]
                exact .late waited received accepts past
              · have here : ¬ departure.clock + exchange.attemptMs ≤ after.clock := past
                simp only [if_neg here]
                exact .again waited received accepts (by omega)

/-- A wait leaves an open session as it is. -/
theorem session_of_wait {channel after : Channel} {timeoutMs : Int} {result : Except Failure Bool}
    (opened : channel.session.isOpen) (h : channel.wait timeoutMs = (result, after)) :
    after.session = channel.session := by
  have := Channel.session_wait channel timeoutMs opened
  rwa [h] at this

/-- A datagram that was waited for has arrived when it is received. -/
theorem arrived_of_wait {channel ready : Channel} {ms : Int} (opened : channel.session.isOpen)
    (h : channel.wait ms = (.ok true, ready)) :
    ∃ first rest, ready.session.inbox = first :: rest ∧ first.time ≤ ready.clock := by
  obtain ⟨socket, hs⟩ := Option.isSome_iff_exists.mp opened
  have session := session_of_wait opened h
  have same : channel.network.wait socket ms = channel.network.wait socket (max 0 ms) := by
    simp only [Network.wait, show max 0 (max 0 ms) = max 0 ms by omega]
  rw [Channel.wait_eq hs, same, Prod.mk.injEq] at h
  obtain ⟨result, rfl⟩ := h
  rw [session, Session.inbox_eq hs]
  exact (channel.network.wait_spec socket (Int.le_max_left 0 ms) (Int.le_refl _)).ready result

theorem inbox_ne_nil {channel ready : Channel} {ms : Int} (opened : channel.session.isOpen)
    (h : channel.wait ms = (.ok true, ready)) : ready.session.inbox ≠ [] := by
  obtain ⟨first, rest, inbox, -⟩ := arrived_of_wait opened h
  simp [inbox]

theorem Step.isOpen {channel after : Channel} {trail trail' : Trail}
    (opened : channel.session.isOpen)
    (step : exchange.Step departure channel trail none trail' after) : after.session.isOpen := by
  cases step with
  | again waited received =>
    have ready := session_of_wait opened waited
    exact (Channel.receive_ok (ready ▸ opened) received).isOpen

theorem listen_induction {motive : Channel → Trail → Ending α → Trail → Channel → Prop}
    (ended : ∀ {channel trail ending trail' after}, channel.session.isOpen →
      exchange.Step departure channel trail (some ending) trail' after →
      motive channel trail ending trail' after)
    (again : ∀ {channel trail trail' next ending trail'' after}, channel.session.isOpen →
      exchange.Step departure channel trail none trail' next →
      motive next trail' ending trail'' after → motive channel trail ending trail'' after)
    (channel : Channel) (trail : Trail) (opened : channel.session.isOpen) :
    motive channel trail (exchange.listen departure channel trail).1
      (exchange.listen departure channel trail).2.1
      (exchange.listen departure channel trail).2.2 := by
  fun_induction exchange.listen departure channel trail with
  | case1 channel trail ending trail' after next =>
    have step := step_round exchange departure channel trail
    rw [next] at step
    exact ended opened step
  | case2 channel trail trail' after next ih =>
    have step := step_round exchange departure channel trail
    rw [next] at step
    exact again opened step (ih (step.isOpen opened))

theorem attempt_induction {motive : Nat → Channel → Trail → Run α → Prop}
    (exhausted : ∀ channel trail,
      motive 0 channel trail
        { outcome := .error (.reported .unanswered)
          trail :=
            (trail.enter .exhausted).note channel.clock
              (.exhausted exchange.kindName trail.attempts)
          channel })
    (unsent : ∀ {left channel trail failure after},
      exchange.launch channel trail = (.error failure, after) →
      motive (left + 1) channel trail
        { outcome := .error failure, trail := beginning trail, channel := after })
    (accepted : ∀ {left channel trail sent answer trail' after},
      exchange.launch channel trail = (.ok (), sent) →
      exchange.attend channel trail sent = (.accepted answer, trail', after) →
      motive (left + 1) channel trail { outcome := .ok answer, trail := trail', channel := after })
    (failed : ∀ {left channel trail sent failure trail' after},
      exchange.launch channel trail = (.ok (), sent) →
      exchange.attend channel trail sent = (.failed failure, trail', after) →
      motive (left + 1) channel trail
        { outcome := .error failure, trail := trail', channel := after })
    (elapsed : ∀ {left channel trail sent trail' after run},
      exchange.launch channel trail = (.ok (), sent) →
      exchange.attend channel trail sent = (.over, trail', after) →
      motive left after trail' run → motive (left + 1) channel trail run)
    (left : Nat) (channel : Channel) (trail : Trail) :
    motive left channel trail (exchange.attempt left channel trail) := by
  induction left generalizing channel trail with
  | zero => exact exhausted channel trail
  | succ left ih =>
    rw [attempt]
    cases sending : exchange.launch channel trail with
    | mk result sent =>
      have expanded := sending
      simp only [launch, requestOf, beginning, Trail.enter_attempts] at expanded
      simp only [expanded, Trail.enter_attempts]
      cases result with
      | error failure => exact unsent sending
      | ok =>
        cases listening : exchange.attend channel trail sent with
        | mk ending rest =>
          obtain ⟨trail', after⟩ := rest
          have expanded' := listening
          simp only [attend, asked, requestOf, beginning, Trail.enter_attempts] at expanded'
          simp only [expanded']
          obtain answer | _ | failure := ending
          · exact accepted sending listening
          · exact elapsed sending listening (ih after trail')
          · exact failed sending listening

/-- A relation between channels that waiting and receiving bring about. -/
structure Heeding (exchange : Exchange α) (R : Channel → Channel → Prop) : Prop where
  trans : ∀ {first second third}, R first second → R second third → R first third
  wait : ∀ channel ms, channel.session.isOpen → 0 ≤ ms → R channel (channel.wait ms).2
  receive : ∀ channel, channel.session.isOpen → channel.session.inbox ≠ [] →
    R channel (channel.receive exchange.receiveSize).2

/-- A relation between channels that everything an exchange does brings about. -/
structure Carried (exchange : Exchange α) (R : Channel → Channel → Prop) : Prop
    extends Heeding exchange R where
  refl : ∀ channel, R channel channel
  send : ∀ channel attempt,
    R channel (channel.send (exchange.request attempt channel.network.wallSeconds)
      exchange.query.destination).2

namespace Heeding

variable {R : Channel → Channel → Prop}

theorem waiting (heeding : exchange.Heeding R) {channel after : Channel}
    {result : Except Failure Bool} (opened : channel.session.isOpen)
    (h : channel.wait (exchange.remaining departure channel) = (result, after)) :
    R channel after := by
  have := heeding.wait channel (exchange.remaining departure channel) opened
    (by simp only [remaining]; omega)
  rwa [h] at this

theorem taking (heeding : exchange.Heeding R) {channel ready after : Channel} {ms : Int}
    {result : Except Failure Datagram} (opened : channel.session.isOpen)
    (waited : channel.wait ms = (.ok true, ready))
    (received : ready.receive exchange.receiveSize = (result, after)) : R ready after := by
  have session := session_of_wait opened waited
  have := heeding.receive ready (session ▸ opened) (inbox_ne_nil opened waited)
  rwa [received] at this

theorem receiving (heeding : exchange.Heeding R) {channel ready after : Channel}
    {result : Except Failure Datagram} (opened : channel.session.isOpen)
    (waited : channel.wait (exchange.remaining departure channel) = (.ok true, ready))
    (received : ready.receive exchange.receiveSize = (result, after)) : R channel after :=
  heeding.trans (heeding.waiting opened waited) (heeding.taking opened waited received)

theorem step (heeding : exchange.Heeding R) {channel after : Channel} {trail trail' : Trail}
    {ending : Option (Ending α)} (opened : channel.session.isOpen)
    (step : exchange.Step departure channel trail ending trail' after) : R channel after := by
  cases step with
  | unwaited waited => exact heeding.waiting opened waited
  | timedOut waited => exact heeding.waiting opened waited
  | unreceived waited received => exact heeding.receiving opened waited received
  | accepted waited received => exact heeding.receiving opened waited received
  | late waited received => exact heeding.receiving opened waited received
  | again waited received => exact heeding.receiving opened waited received

theorem listen (heeding : exchange.Heeding R) (departure : Departure) (channel : Channel)
    (trail : Trail) (opened : channel.session.isOpen) :
    R channel (exchange.listen departure channel trail).2.2 :=
  listen_induction (motive := fun channel _ _ _ after => R channel after)
    (fun opened step => heeding.step opened step)
    (fun opened step rest => heeding.trans (heeding.step opened step) rest) channel trail opened

end Heeding

namespace Carried

variable {R : Channel → Channel → Prop}

theorem sending (carried : exchange.Carried R) {channel after : Channel} {trail : Trail}
    {result : Except Failure Unit}
    (h : exchange.launch channel trail = (result, after)) : R channel after := by
  have := carried.send channel (beginning trail).attempts
  rwa [← requestOf, ← launch, h] at this

/-- From the start of an attempt to its end. -/
theorem attempting (carried : exchange.Carried R) {channel sent after : Channel}
    {trail trail' : Trail} {ending : Ending α} (h : exchange.launch channel trail = (.ok (), sent))
    (hl : exchange.attend channel trail sent = (ending, trail', after)) : R channel after := by
  have listened := carried.listen ⟨channel.network.wallSeconds, sent.clock⟩ sent
    (exchange.asked (beginning trail) (exchange.requestOf (beginning trail) channel) sent)
    (Channel.send_ok h).isOpen
  rw [← attend, hl] at listened
  exact carried.trans (carried.sending h) listened

theorem attempt (carried : exchange.Carried R) (left : Nat) (channel : Channel) (trail : Trail) :
    R channel (exchange.attempt left channel trail).channel := by
  refine attempt_induction (motive := fun _ channel _ run => R channel run.channel)
    ?_ ?_ ?_ ?_ ?_ left channel trail
  · intro channel trail
    exact carried.refl channel
  · intro left channel trail failure after unsent
    exact carried.sending unsent
  · intro left channel trail sent answer trail' after sending heard
    exact carried.attempting sending heard
  · intro left channel trail sent failure trail' after sending heard
    exact carried.attempting sending heard
  · intro left channel trail sent trail' after run sending heard rest
    exact carried.trans (carried.attempting sending heard) rest

theorem run (carried : exchange.Carried R) (channel : Channel) :
    R channel (exchange.run channel).channel :=
  carried.attempt _ channel _

/-- What every operation keeps, an exchange keeps. -/
theorem steady (exchange : Exchange α) : exchange.Carried Channel.Steady where
  refl := .refl
  trans := .trans
  send channel _ := .send channel _ _
  wait channel _ opened nonneg := .wait channel opened nonneg
  receive channel opened waiting := .receive channel _ opened waiting

end Carried

/-- How listening came to an answer: the accepted datagram was the last one received. -/
inductive Heard (exchange : Exchange α) (R : Channel → Channel → Prop) (channel : Channel)
    (answer : Answer α) (after : Channel) : Prop
  | intro {ready : Channel} {arrival : Arrival} (before : R channel ready) (rest : R ready after)
      (mem : arrival ∈ ready.session.inbox)
      (accepts : exchange.accept (arrival.datagram.cut exchange.receiveSize) = .ok answer.packet)
      (received : after.network.receivedRev =
        arrival.datagram.cut exchange.receiveSize :: ready.network.receivedRev)
      (receivedAt : answer.receivedAt = after.network.wallSeconds)
      (arrived : arrival.time ≤ after.clock)

/-- How an exchange came to an answer, from the last request on. -/
inductive Origin (exchange : Exchange α) (R S : Channel → Channel → Prop) (channel : Channel)
    (answer : Answer α) (after : Channel) : Prop
  | intro {asking sent : Channel} {attempt : Nat} (before : R channel asking)
      (sending : R asking sent)
      (off : asking.SentOff (exchange.request attempt asking.network.wallSeconds)
        exchange.query.destination sent)
      (sentAt : answer.sentAt = asking.network.wallSeconds)
      (heard : exchange.Heard S sent answer after)

theorem Heeding.heard {R : Channel → Channel → Prop} (heeding : exchange.Heeding R)
    {channel after : Channel} {trail trail' : Trail} {answer : Answer α}
    (opened : channel.session.isOpen)
    (h : exchange.listen departure channel trail = (.accepted answer, trail', after)) :
    exchange.Heard R channel answer after ∧ answer.sentAt = departure.sentAt := by
  suffices general : ∀ answer, (exchange.listen departure channel trail).1 = .accepted answer →
      exchange.Heard R channel answer (exchange.listen departure channel trail).2.2 ∧
        answer.sentAt = departure.sentAt by
    rw [h] at general
    exact general answer rfl
  refine listen_induction (motive := fun channel _ ending _ after => ∀ answer,
      ending = .accepted answer →
        exchange.Heard R channel answer after ∧ answer.sentAt = departure.sentAt)
    ?_ ?_ channel trail opened
  · rintro channel trail ending trail' after opened step answer rfl
    cases step with
    | @accepted ready _ datagram packet waited received accepts =>
      have session := session_of_wait opened waited
      have taken := Channel.receive_ok (session ▸ opened) received
      obtain ⟨arrival, inbox, rfl⟩ := taken.inbox
      have mem : arrival ∈ ready.session.inbox := inbox ▸ List.mem_cons_self
      obtain ⟨first, rest, inbox', arrived⟩ := arrived_of_wait opened waited
      obtain ⟨rfl, -⟩ := List.cons.inj (inbox.symm.trans inbox')
      rw [← taken.clock] at arrived
      exact ⟨⟨heeding.waiting opened waited, heeding.taking opened waited received, mem, accepts,
        taken.receivedRev, rfl, arrived⟩, rfl⟩
  · intro channel trail trail' next ending trail'' after opened step rest answer he
    obtain ⟨⟨before, rest, mem, accepts, received, receivedAt, arrived⟩, sentAt⟩ := rest answer he
    exact ⟨⟨heeding.trans (heeding.step opened step) before, rest, mem, accepts, received,
      receivedAt, arrived⟩, sentAt⟩

/-- The relation that listening brings about may say more than the one for the whole. -/
theorem Carried.origin_of {R S : Channel → Channel → Prop} (carried : exchange.Carried R)
    (heeding : exchange.Heeding S) {channel : Channel} {answer : Answer α}
    (h : (exchange.run channel).outcome = .ok answer) :
    exchange.Origin R S channel answer (exchange.run channel).channel := by
  refine attempt_induction (motive := fun _ channel _ run => ∀ answer, run.outcome = .ok answer →
      exchange.Origin R S channel answer run.channel)
    ?_ ?_ ?_ ?_ ?_ _ channel _ answer h
  · simp
  · simp
  · rintro left channel trail sent answer trail' after hs hl _ ⟨⟩
    obtain ⟨heard, sentAt⟩ := heeding.heard (Channel.send_ok hs).isOpen hl
    exact ⟨carried.refl channel, carried.sending hs, Channel.send_ok hs, sentAt, heard⟩
  · simp
  · intro left channel trail sent trail' after run hs hl rest answer ho
    obtain ⟨before, sending, off, sentAt, heard⟩ := rest answer ho
    exact ⟨carried.trans (carried.attempting hs hl) before, sending, off, sentAt, heard⟩

theorem Carried.origin {R : Channel → Channel → Prop} (carried : exchange.Carried R)
    {channel : Channel} {answer : Answer α} (h : (exchange.run channel).outcome = .ok answer) :
    exchange.Origin R R channel answer (exchange.run channel).channel :=
  carried.origin_of carried.toHeeding h

end NtpQuery.Exchange
