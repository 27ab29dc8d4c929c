import NtpQuery.Proofs.Exchange.Round
import NtpQuery.Proofs.Network.Parallel

/-!
# Exchanges on parallel networks

An answer cannot depend on what comes after it. An operation that succeeds on a
channel recurs on every channel that is parallel until then, and leaves the two
parallel again. So do the rounds and attempts that are made of operations, and
an exchange that is answered: on the parallel channel it has the same answer
after the same events.
-/

namespace NtpQuery

/-- Channels that cannot be told apart until the network of the first one has become the final
one. -/
structure Channel.Parallel (horizon : Int) (final : Network) (channel other : Channel) : Prop where
  session : other.session = { channel.session with socket := other.session.socket }
  socket : Option.Rel (Socket.Parallel horizon) channel.session.socket other.session.socket
  network : channel.network.Parallel horizon final other.network

/-- What leads from the first channel to the second leads on in the same way from every parallel
channel. -/
structure Channel.Recurs (channel after : Channel) (elsewhere : Channel → Channel → Prop) :
    Prop where
  grown : channel.network.Grown after.network
  parallel : ∀ {horizon final other}, after.network.Grown final →
    channel.Parallel horizon final other →
    ∃ other', elsewhere other other' ∧ after.Parallel horizon final other'

namespace Channel

variable {horizon : Int} {final : Network} {channel middle after other : Channel}
  {P Q R : Channel → Channel → Prop}

namespace Parallel

theorem clock (parallel : channel.Parallel horizon final other) : other.clock = channel.clock := by
  rw [Channel.clock, parallel.network.elsewhere]
  rfl

theorem wallSeconds (parallel : channel.Parallel horizon final other) :
    other.network.wallSeconds = channel.network.wallSeconds := by
  rw [parallel.network.elsewhere]
  rfl

/-- Parallel sockets on parallel networks may be put in place of what was there. -/
theorem put (parallel : channel.Parallel horizon final other) {socket socket' : Socket}
    {network network' : Network} (sockets : socket.Parallel horizon socket')
    (networks : network.Parallel horizon final network') :
    ({ channel with network }.withSocket (some socket)).Parallel horizon final
      ({ other with network := network' }.withSocket (some socket')) := by
  refine ⟨?_, .some sockets, networks⟩
  show { other.session with socket := some socket' } = _
  rw [parallel.session]
  rfl

theorem socket_of_some (parallel : channel.Parallel horizon final other) {socket : Socket}
    (present : channel.session.socket = some socket) :
    ∃ socket', other.session.socket = some socket' ∧ socket.Parallel horizon socket' := by
  have sockets := parallel.socket
  rw [present] at sockets
  generalize other.session.socket = held at sockets
  cases sockets with
  | some parallel => exact ⟨_, rfl, parallel⟩

theorem socket_of_none (parallel : channel.Parallel horizon final other)
    (absent : channel.session.socket = none) : other.session.socket = none := by
  have sockets := parallel.socket
  rw [absent] at sockets
  generalize other.session.socket = held at sockets
  cases sockets
  rfl

end Parallel

namespace Recurs

theorem trans (first : channel.Recurs middle P) (second : middle.Recurs after Q)
    (join : ∀ {horizon final other middle' other'}, channel.Parallel horizon final other →
      middle.Parallel horizon final middle' → after.Parallel horizon final other' →
      P other middle' → Q middle' other' → R other other') : channel.Recurs after R := by
  refine ⟨first.grown.trans second.grown, ?_⟩
  intro horizon final other grown parallel
  obtain ⟨middle', before, parallel'⟩ := first.parallel (second.grown.trans grown) parallel
  obtain ⟨other', later, parallel''⟩ := second.parallel grown parallel'
  exact ⟨other', join parallel parallel' parallel'' before later, parallel''⟩

theorem mono (recurs : channel.Recurs after P)
    (weaken : ∀ {horizon final other other'}, channel.Parallel horizon final other →
      after.Parallel horizon final other' → P other other' → R other other') :
    channel.Recurs after R := by
  refine ⟨recurs.grown, ?_⟩
  intro horizon final other grown parallel
  obtain ⟨other', leads, parallel'⟩ := recurs.parallel grown parallel
  exact ⟨other', weaken parallel parallel' leads, parallel'⟩

end Recurs

theorem ensureOpen_parallel {socket : Socket} (h : channel.ensureOpen = (.ok socket, after)) :
    channel.network.Grown after.network ∧ ∀ {horizon final other}, after.network.Grown final →
      channel.Parallel horizon final other →
      ∃ socket' other', other.ensureOpen = (.ok socket', other') ∧
        socket.Parallel horizon socket' ∧ after.Parallel horizon final other' := by
  rw [ensureOpen] at h
  cases present : channel.session.socket with
  | some held =>
    simp only [present, Prod.mk.injEq, Except.ok.injEq] at h
    obtain ⟨rfl, rfl⟩ := h
    refine ⟨.refl _, ?_⟩
    intro horizon final other grown parallel
    obtain ⟨socket', present', sockets⟩ := parallel.socket_of_some present
    exact ⟨socket', other, by rw [ensureOpen, present'], sockets, parallel⟩
  | none =>
    cases opening : channel.network.openSocket channel.session.bindHost with
    | mk result network =>
      cases result with
      | error failure => simp [present, opening] at h
      | ok fresh =>
        simp only [present, opening, Prod.mk.injEq, Except.ok.injEq] at h
        obtain ⟨rfl, rfl⟩ := h
        obtain ⟨grown, opens⟩ := Network.openSocket_parallel opening
        refine ⟨grown, ?_⟩
        intro horizon final other grown' parallel
        obtain ⟨network', opening', parallel'⟩ := opens grown' parallel.network
        have host : other.session.bindHost = channel.session.bindHost := by rw [parallel.session]
        have sockets : fresh.Parallel horizon fresh := ⟨rfl, rfl⟩
        refine ⟨fresh, { other with network := network' }.withSocket (some fresh), ?_, sockets,
          parallel.put sockets parallel'⟩
        rw [ensureOpen, parallel.socket_of_none present, host, opening']

namespace Recurs

theorem of_send {data : Bytes} {destination : Endpoint}
    (h : channel.send data destination = (.ok (), after)) :
    channel.Recurs after fun other other' => other.send data destination = (.ok (), other') := by
  rw [send] at h
  cases opening : channel.ensureOpen with
  | mk result ready =>
    cases result with
    | error failure => simp [opening] at h
    | ok socket =>
      obtain ⟨opened, opens⟩ := ensureOpen_parallel opening
      simp only [opening] at h
      cases sending : ready.network.send socket data destination with
      | mk result network =>
        cases result with
        | error reason =>
          simp only [sending] at h
          exact absurd h (abandon_ne_ok _ _ _ _)
        | ok sent =>
          simp only [sending, Prod.mk.injEq, true_and] at h
          subst h
          obtain ⟨grown, sends⟩ := Network.send_parallel sending
          refine ⟨opened.trans grown, ?_⟩
          intro horizon final other grown' parallel
          obtain ⟨socket', ready', opening', sockets, parallel'⟩ :=
            opens (grown.trans grown') parallel
          obtain ⟨sent', network', sending', sockets', networks⟩ :=
            sends grown' parallel'.network sockets
          exact ⟨_, by simp only [send, opening', sending'], parallel'.put sockets' networks⟩

theorem of_wait {timeoutMs : Int} {ready : Bool}
    (h : channel.wait timeoutMs = (.ok ready, after)) :
    channel.Recurs after fun other other' => other.wait timeoutMs = (.ok ready, other') := by
  rw [wait] at h
  cases opening : channel.ensureOpen with
  | mk result opened =>
    cases result with
    | error failure => simp [opening] at h
    | ok socket =>
      obtain ⟨grown, opens⟩ := ensureOpen_parallel opening
      simp only [opening, Prod.mk.injEq] at h
      obtain ⟨result, rfl⟩ := h
      obtain ⟨grown', waits⟩ := Network.wait_parallel (Prod.ext result rfl)
      refine ⟨grown.trans grown', ?_⟩
      intro horizon final other grown'' parallel
      obtain ⟨socket', opened', opening', sockets, parallel'⟩ :=
        opens (grown'.trans grown'') parallel
      obtain ⟨network', waited, networks⟩ := waits grown'' parallel'.network sockets
      refine ⟨{ opened' with network := network' }, ?_, parallel'.session, parallel'.socket,
        networks⟩
      simp only [wait, opening', waited]

theorem of_receive {size : Int} {datagram : Datagram}
    (arrived : ∀ first ∈ channel.session.inbox.head?, first.time ≤ channel.clock)
    (h : channel.receive size = (.ok datagram, after)) :
    channel.Recurs after fun other other' => other.receive size = (.ok datagram, other') := by
  rw [receive] at h
  cases opening : channel.ensureOpen with
  | mk result ready =>
    cases result with
    | error failure => simp [opening] at h
    | ok socket =>
      obtain ⟨opened, opens⟩ := ensureOpen_parallel opening
      simp only [opening] at h
      cases receiving : ready.network.receive socket size with
      | mk result network =>
        cases result with
        | error reason =>
          simp only [receiving] at h
          exact absurd h (abandon_ne_ok _ _ _ _)
        | ok taken =>
          obtain ⟨taken, left⟩ := taken
          simp only [receiving, Prod.mk.injEq, Except.ok.injEq] at h
          obtain ⟨rfl, rfl⟩ := h
          obtain ⟨grown, receives⟩ := Network.receive_parallel receiving
          refine ⟨opened.trans grown, ?_⟩
          intro horizon final other grown' parallel
          have early := parallel.network.early (.refl _) (opened.trans (grown.trans grown'))
          obtain ⟨socket', ready', opening', sockets, parallel'⟩ :=
            opens (grown.trans grown') parallel
          obtain ⟨left', network', receiving', sockets', networks⟩ :=
            receives grown' parallel'.network sockets (by
              intro first mem
              rw [(ensureOpen_ok opening).inbox] at mem
              exact Int.le_trans (arrived first mem) early)
          exact ⟨_, by simp only [receive, opening', receiving'], parallel'.put sockets' networks⟩

end Recurs

end Channel

namespace Exchange

variable {α : Type} {exchange : Exchange α} {departure : Departure} {channel after : Channel}
  {trail trail' : Trail}

/-- A round goes in one way only. -/
theorem Step.round_eq {ending : Option (Ending α)}
    (step : exchange.Step departure channel trail ending trail' after) :
    exchange.round departure channel trail = (ending, trail', after) := by
  rw [round]
  cases step with
  | unwaited waited =>
    simp only [remaining, deadline] at waited
    simp only [waited]
  | timedOut waited =>
    simp only [remaining, deadline] at waited
    simp only [waited]
  | unreceived waited received =>
    simp only [remaining, deadline] at waited
    simp only [waited, received]
  | accepted waited received accepts =>
    simp only [remaining, deadline] at waited
    simp only [waited, received, accepts]
    rfl
  | late waited received rejects past =>
    simp only [remaining, deadline] at waited past
    simp only [waited, received, rejects, if_pos past]
    rfl
  | again waited received rejects early =>
    simp only [remaining, deadline] at waited early
    simp only [waited, received, rejects, if_neg (Int.not_le.mpr early)]
    rfl

/-- A datagram that a round takes here, the same round takes there. -/
theorem recurs_taking {ready : Channel} {datagram : Datagram} (opened : channel.session.isOpen)
    (waited : channel.wait (exchange.remaining departure channel) = (.ok true, ready))
    (received : ready.receive exchange.receiveSize = (.ok datagram, after)) :
    channel.Recurs after fun other other' => ∃ ready',
      other.wait (exchange.remaining departure other) = (.ok true, ready') ∧
        ready'.receive exchange.receiveSize = (.ok datagram, other') ∧
        other'.clock = after.clock ∧ other'.network.wallSeconds = after.network.wallSeconds := by
  obtain ⟨first, rest, inbox, arrived⟩ := arrived_of_wait opened waited
  refine (Channel.Recurs.of_wait waited).trans (.of_receive ?_ received) ?_
  · intro arrival mem
    rw [inbox] at mem
    obtain rfl := Option.some.inj mem
    exact arrived
  · intro horizon final other ready' other' parallel _ parallel' waited' received'
    rw [remaining, deadline, ← parallel.clock] at waited'
    exact ⟨ready', waited', received', parallel'.clock, parallel'.wallSeconds⟩

theorem recurs_round {ending : Option (Ending α)} (opened : channel.session.isOpen)
    (step : exchange.Step departure channel trail ending trail' after)
    (regular : ∀ failure, ending ≠ some (.failed failure)) :
    channel.Recurs after fun other other' =>
      exchange.round departure other trail = (ending, trail', other') := by
  cases step with
  | unwaited => exact absurd rfl (regular _)
  | unreceived => exact absurd rfl (regular _)
  | timedOut waited =>
    refine (Channel.Recurs.of_wait waited).mono ?_
    intro horizon final other other' parallel parallel' waited'
    rw [remaining, deadline, ← parallel.clock] at waited'
    rw [(Step.timedOut waited').round_eq, parallel'.clock]
  | accepted waited received accepts =>
    refine (recurs_taking opened waited received).mono ?_
    rintro horizon final other other' - - ⟨ready', waited', received', clock, wallSeconds⟩
    rw [(Step.accepted waited' received' accepts).round_eq, heard, heard, answerOf, answerOf,
      clock, wallSeconds]
  | late waited received rejects past =>
    refine (recurs_taking opened waited received).mono ?_
    rintro horizon final other other' - - ⟨ready', waited', received', clock, -⟩
    rw [(Step.late waited' received' rejects (clock ▸ past)).round_eq, heard, heard, refusedWith,
      refusedWith, clock]
  | again waited received rejects early =>
    refine (recurs_taking opened waited received).mono ?_
    rintro horizon final other other' - - ⟨ready', waited', received', clock, -⟩
    rw [(Step.again waited' received' rejects (clock ▸ early)).round_eq, heard, heard, refusedWith,
      refusedWith, clock]

theorem listen_eq {ending : Option (Ending α)}
    (h : exchange.round departure channel trail = (ending, trail', after)) :
    exchange.listen departure channel trail =
      match ending with
      | some ending => (ending, trail', after)
      | none => exchange.listen departure after trail' := by
  rw [listen]
  split
  · rename_i next
    rw [h, Prod.mk.injEq, Prod.mk.injEq] at next
    obtain ⟨rfl, rfl, rfl⟩ := next
    rfl
  · rename_i next
    rw [h, Prod.mk.injEq, Prod.mk.injEq] at next
    obtain ⟨rfl, rfl, rfl⟩ := next
    rfl

theorem recurs_listen {ending : Ending α} (opened : channel.session.isOpen)
    (h : exchange.listen departure channel trail = (ending, trail', after))
    (regular : ∀ failure, ending ≠ .failed failure) :
    channel.Recurs after fun other other' =>
      exchange.listen departure other trail = (ending, trail', other') := by
  suffices general : (∀ failure, (exchange.listen departure channel trail).1 ≠ .failed failure) →
      channel.Recurs (exchange.listen departure channel trail).2.2 fun other other' =>
        exchange.listen departure other trail =
          ((exchange.listen departure channel trail).1,
            (exchange.listen departure channel trail).2.1, other') by
    rw [h] at general
    exact general regular
  refine listen_induction (motive := fun channel trail ending trail' after =>
    (∀ failure, ending ≠ .failed failure) → channel.Recurs after fun other other' =>
      exchange.listen departure other trail = (ending, trail', other')) ?_ ?_ channel trail opened
  · intro channel trail ending trail' after opened step regular
    refine (recurs_round opened step fun failure same =>
      regular failure (Option.some.inj same)).mono ?_
    intro horizon final other other' _ _ round'
    rw [listen_eq round']
  · intro channel trail trail' next ending trail'' after opened step rest regular
    refine (recurs_round opened step (by simp)).trans (rest regular) ?_
    intro horizon final other next' other' _ _ _ round' listen'
    rw [listen_eq round']
    exact listen'

/-- An attempt sends its request and listens. -/
theorem attempt_succ (exchange : Exchange α) (left : Nat) (channel : Channel) (trail : Trail) :
    exchange.attempt (left + 1) channel trail =
      match exchange.launch channel trail with
      | (.error failure, after) =>
        { outcome := .error failure, trail := beginning trail, channel := after }
      | (.ok _, sent) =>
        match exchange.attend channel trail sent with
        | (.accepted answer, trail, after) => { outcome := .ok answer, trail, channel := after }
        | (.failed failure, trail, after) => { outcome := .error failure, trail, channel := after }
        | (.over, trail, after) => exchange.attempt left after trail := by
  rw [attempt]
  rfl

theorem recurs_attend {sent : Channel} {ending : Ending α}
    (sending : exchange.launch channel trail = (.ok (), sent))
    (listening : exchange.attend channel trail sent = (ending, trail', after))
    (regular : ∀ failure, ending ≠ .failed failure) :
    channel.Recurs after fun other other' => ∃ sent',
      exchange.launch other trail = (.ok (), sent') ∧
        exchange.attend other trail sent' = (ending, trail', other') := by
  have opened := (Channel.send_ok sending).isOpen
  refine (Channel.Recurs.of_send sending).trans (recurs_listen opened listening regular) ?_
  intro horizon final other sent' other' parallel parallel' _ sending' listening'
  rw [requestOf, ← parallel.wallSeconds] at sending'
  rw [requestOf, ← parallel.wallSeconds, asked, ← parallel'.clock] at listening'
  exact ⟨sent', sending', listening'⟩

theorem recurs_attempt (exchange : Exchange α) (left : Nat) (channel : Channel) (trail : Trail)
    {answer : Answer α} (outcome : (exchange.attempt left channel trail).outcome = .ok answer) :
    channel.Recurs (exchange.attempt left channel trail).channel fun other other' =>
      exchange.attempt left other trail =
        { exchange.attempt left channel trail with channel := other' } := by
  refine attempt_induction (motive := fun left channel trail run =>
    run.outcome = .ok answer → channel.Recurs run.channel fun other other' =>
      exchange.attempt left other trail = { run with channel := other' })
    ?_ ?_ ?_ ?_ ?_ left channel trail outcome
  · intro channel trail outcome
    simp at outcome
  · intro left channel trail failure after unsent outcome
    simp at outcome
  · intro left channel trail sent answer' trail' after sending listening _
    refine (recurs_attend sending listening (by simp)).mono ?_
    rintro horizon final other other' - - ⟨sent', sending', listening'⟩
    simp only [attempt_succ, sending', listening']
  · intro left channel trail sent failure trail' after sending listening outcome
    simp at outcome
  · intro left channel trail sent trail' after run sending listening rest outcome
    refine (recurs_attend sending listening (by simp)).trans (rest outcome) ?_
    rintro horizon final other after' other' - - - ⟨sent', sending', listening'⟩ attempt'
    simp only [attempt_succ, sending', listening']
    exact attempt'

/-- An exchange that is answered here is answered there. -/
theorem recurs_run {answer : Answer α} (outcome : (exchange.run channel).outcome = .ok answer) :
    channel.Recurs (exchange.run channel).channel fun other other' =>
      exchange.run other = { exchange.run channel with channel := other' } :=
  recurs_attempt exchange _ channel _ outcome

end Exchange

end NtpQuery
