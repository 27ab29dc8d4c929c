import NtpQuery.Proofs.Network.Delivery
import NtpQuery.Proofs.Network.Waiting
import NtpQuery.Session

/-!
# Operations of a session

Each operation has one statement for its success and one for its failure, and
later proofs use nothing else about it. A success meets no refusal and says
what becomes of the inbox and of the network. A failure uses up exactly one
refusal and leaves the session without a socket; as long as closing works, it
is the error of the operation. `Channel.Steady` is what every operation keeps,
also one that fails.
-/

namespace NtpQuery

theorem Session.inbox_eq {session : Session} {socket : Socket} (h : session.socket = some socket) :
    session.inbox = socket.inbox := by
  simp [Session.inbox, h]

theorem Session.inbox_eq_nil {session : Session} (h : session.socket = none) :
    session.inbox = [] := by
  simp [Session.inbox, h]

namespace Channel

/-- The second channel is the first one with its socket opened where it had none. -/
structure Opened (channel : Channel) (socket : Socket) (ready : Channel) : Prop where
  session : ready.session = { channel.session with socket := some socket }
  inbox : socket.inbox = channel.session.inbox
  network : channel.network.Housekeeping ready.network
  refusals : ready.network.faults.refusals = channel.network.faults.refusals
  close : ready.network.faults.close = channel.network.faults.close

/-- The second channel is the first one after an operation that met a refusal. -/
structure Dropped (channel : Channel) (refusal : Refusal) (after : Channel) : Prop where
  session : after.session = { channel.session with socket := none }
  network : ∃ create bind send receive close portsAssigned socketsCreated openSockets,
    after.network =
      { channel.network with
        faults := { channel.network.faults with create, bind, send, receive, close }
        portsAssigned, socketsCreated, openSockets }
  spent : channel.network.faults.Spent refusal after.network.faults
  close : refused channel.network.faults.close = 0 → refused after.network.faults.close = 0

/-- The second channel is the first one after a datagram was sent. -/
structure SentOff (channel : Channel) (data : Bytes) (destination : Endpoint) (after : Channel) :
    Prop where
  session : after.session = { channel.session with socket := after.session.socket }
  isOpen : after.session.isOpen
  inbox : after.session.inbox =
    channel.session.inbox.enqueueAll (channel.network.bring data destination).1
  network : ∃ create bind send portsAssigned socketsCreated openSockets station,
    after.network =
      { channel.network with
        faults := { channel.network.faults with create, bind, send }
        portsAssigned, socketsCreated, openSockets, station
        script := channel.network.script.tail
        sentRev := ⟨channel.clock, data, destination⟩ :: channel.network.sentRev }
  station : after.network.station = (channel.network.bring data destination).2.station
  setup : after.network.station.map Station.setup = channel.network.station.map Station.setup
  refusals : after.network.faults.refusals = channel.network.faults.refusals

/-- The second channel is the first one after its first datagram was taken. -/
structure Taken (channel : Channel) (size : Int) (datagram : Datagram) (after : Channel) :
    Prop where
  session : after.session = { channel.session with socket := after.session.socket }
  isOpen : after.session.isOpen
  inbox : ∃ arrival, channel.session.inbox = arrival :: after.session.inbox ∧
    datagram = arrival.datagram.cut size
  network : ∃ receive,
    after.network =
      { channel.network with
        faults := { channel.network.faults with receive }
        receivedRev := datagram :: channel.network.receivedRev }
  refusals : after.network.faults.refusals = channel.network.faults.refusals

variable {channel after : Channel} {failure : Failure}

namespace SentOff

variable {data : Bytes} {destination : Endpoint}

theorem sentRev (off : channel.SentOff data destination after) :
    after.network.sentRev = ⟨channel.clock, data, destination⟩ :: channel.network.sentRev := by
  obtain ⟨_, _, _, _, _, _, _, hn⟩ := off.network
  rw [hn]

theorem receivedRev (off : channel.SentOff data destination after) :
    after.network.receivedRev = channel.network.receivedRev := by
  obtain ⟨_, _, _, _, _, _, _, hn⟩ := off.network
  rw [hn]

theorem clock (off : channel.SentOff data destination after) : after.clock = channel.clock := by
  obtain ⟨_, _, _, _, _, _, _, hn⟩ := off.network
  rw [Channel.clock, hn]
  rfl

theorem waits (off : channel.SentOff data destination after) :
    after.network.faults.wait = channel.network.faults.wait := by
  obtain ⟨_, _, _, _, _, _, _, hn⟩ := off.network
  rw [hn]

theorem closes (off : channel.SentOff data destination after) :
    after.network.faults.close = channel.network.faults.close := by
  obtain ⟨_, _, _, _, _, _, _, hn⟩ := off.network
  rw [hn]

theorem script (off : channel.SentOff data destination after) :
    after.network.script = channel.network.script.tail := by
  obtain ⟨_, _, _, _, _, _, _, hn⟩ := off.network
  rw [hn]

theorem wallOffset (off : channel.SentOff data destination after) :
    after.network.wallOffset = channel.network.wallOffset := by
  obtain ⟨_, _, _, _, _, _, _, hn⟩ := off.network
  rw [hn]

theorem hosts (off : channel.SentOff data destination after) :
    after.network.hosts = channel.network.hosts := by
  obtain ⟨_, _, _, _, _, _, _, hn⟩ := off.network
  rw [hn]

theorem quiet (off : channel.SentOff data destination after) (quiet : channel.network.Quiet) :
    after.network.Quiet :=
  quiet.of_same off.refusals off.waits off.closes

end SentOff

namespace Taken

variable {size : Int} {datagram : Datagram}

theorem receivedRev (taken : channel.Taken size datagram after) :
    after.network.receivedRev = datagram :: channel.network.receivedRev := by
  obtain ⟨_, hn⟩ := taken.network
  rw [hn]

theorem sentRev (taken : channel.Taken size datagram after) :
    after.network.sentRev = channel.network.sentRev := by
  obtain ⟨_, hn⟩ := taken.network
  rw [hn]

theorem clock (taken : channel.Taken size datagram after) : after.clock = channel.clock := by
  obtain ⟨_, hn⟩ := taken.network
  rw [Channel.clock, hn]
  rfl

theorem waits (taken : channel.Taken size datagram after) :
    after.network.faults.wait = channel.network.faults.wait := by
  obtain ⟨_, hn⟩ := taken.network
  rw [hn]

theorem closes (taken : channel.Taken size datagram after) :
    after.network.faults.close = channel.network.faults.close := by
  obtain ⟨_, hn⟩ := taken.network
  rw [hn]

theorem quiet (taken : channel.Taken size datagram after) (quiet : channel.network.Quiet) :
    after.network.Quiet :=
  quiet.of_same taken.refusals taken.waits taken.closes

end Taken

namespace Dropped

variable {refusal : Refusal}

theorem receivedRev (dropped : channel.Dropped refusal after) :
    after.network.receivedRev = channel.network.receivedRev := by
  obtain ⟨_, _, _, _, _, _, _, _, hn⟩ := dropped.network
  rw [hn]

theorem waits (dropped : channel.Dropped refusal after) :
    after.network.faults.wait = channel.network.faults.wait := by
  obtain ⟨_, _, _, _, _, _, _, _, hn⟩ := dropped.network
  rw [hn]

theorem socket (dropped : channel.Dropped refusal after) : after.session.socket = none := by
  rw [dropped.session]

/-- Where nothing is refused no operation fails. -/
theorem not_quiet (dropped : channel.Dropped refusal after) : ¬ channel.network.Quiet :=
  dropped.spent.not_quiet

end Dropped

theorem ensureOpen_ok {socket : Socket} (h : channel.ensureOpen = (.ok socket, after)) :
    channel.Opened socket after := by
  rw [ensureOpen] at h
  cases present : channel.session.socket with
  | some socket =>
    simp only [present, Prod.mk.injEq, Except.ok.injEq] at h
    obtain ⟨rfl, rfl⟩ := h
    exact ⟨by rw [← present], (Session.inbox_eq present).symm, .refl _, rfl, rfl⟩
  | none =>
    cases opening : channel.network.openSocket channel.session.bindHost with
    | mk result network =>
      cases result with
      | error failure => simp [present, opening] at h
      | ok fresh =>
        simp only [present, opening, Prod.mk.injEq, Except.ok.injEq] at h
        obtain ⟨rfl, rfl⟩ := h
        obtain ⟨kept, refusals, close⟩ := Network.openSocket_ok opening
        refine ⟨rfl, ?_, kept, refusals, close⟩
        rw [Network.inbox_openSocket opening, Session.inbox_eq_nil present]

theorem ensureOpen_error (h : channel.ensureOpen = (.error failure, after)) :
    channel.Dropped .opening after ∧
      ∃ message, channel.network.faults.Surfaces (Refusal.opening.error message)
        after.network.faults failure := by
  rw [ensureOpen] at h
  cases present : channel.session.socket with
  | some socket => simp [present] at h
  | none =>
    cases opening : channel.network.openSocket channel.session.bindHost with
    | mk result network =>
      cases result with
      | ok fresh => simp [present, opening] at h
      | error failed =>
        simp only [present, opening, Prod.mk.injEq, Except.error.injEq] at h
        obtain ⟨rfl, rfl⟩ := h
        obtain ⟨⟨_, _, _, _, _, _, kept⟩, spent, message, surfaces⟩ :=
          Network.openSocket_error opening
        refine ⟨⟨by rw [← present], ⟨_, _, _, _, _, _, _, _, kept⟩, spent, ?_⟩, message, surfaces⟩
        exact surfaces.close_eq_zero

/-- Giving up a socket after an error is that error, unless closing fails too. -/
theorem abandon_spec {α : Type} (channel : Channel) (error : QueryError) :
    (channel.abandon (α := α) error).2.session = { channel.session with socket := none } ∧
      channel.network.Housekeeping (channel.abandon (α := α) error).2.network ∧
      (channel.abandon (α := α) error).2.network.faults.refusals =
        channel.network.faults.refusals ∧
      ∃ failure, (channel.abandon (α := α) error).1 = .error failure ∧
        channel.network.faults.Surfaces error (channel.abandon (α := α) error).2.network.faults
          failure := by
  unfold abandon close
  cases present : channel.session.socket with
  | none => exact ⟨by simp only [← present], .refl _, rfl, _, rfl, .inl ⟨rfl, rfl⟩⟩
  | some socket =>
    obtain ⟨kept, refusals, closes⟩ := channel.network.closeSocket_spec socket.id
    simp only
    cases closed : channel.network.closeSocket socket.id with
    | mk result network =>
      rw [closed] at kept refusals closes
      rcases closes with ⟨ended, same⟩ | ⟨ended, one⟩
      · obtain rfl : result = .ok () := ended
        exact ⟨rfl, kept, refusals, _, rfl, .inl ⟨rfl, same⟩⟩
      · obtain rfl : result = .error .system := ended
        exact ⟨rfl, kept, refusals, _, rfl, .inr ⟨rfl, one⟩⟩

theorem send_ok {data : Bytes} {destination : Endpoint}
    (h : channel.send data destination = (.ok (), after)) :
    channel.SentOff data destination after := by
  rw [send] at h
  cases opening : channel.ensureOpen with
  | mk result ready =>
    cases result with
    | error failure => simp [opening] at h
    | ok socket =>
      obtain ⟨session, inbox, ⟨create, bind, close, ports, created, sockets, hn⟩, refusals,
        closes⟩ := ensureOpen_ok opening
      obtain ⟨session', network⟩ := ready
      simp only at session hn refusals closes
      subst hn
      obtain rfl : close = channel.network.faults.close := closes
      simp only [opening, Network.send] at h
      cases call : nextCall channel.network.faults.send with
      | mk fault rest =>
        cases fault with
        | some reason =>
          simp only [call] at h
          exact absurd h (abandon_ne_ok _ _ _ _)
        | none =>
          obtain ⟨station, setup, bring⟩ := channel.network.bring_eq data destination
          generalize ha : (channel.network.bring data destination).1 = arrivals at bring
          simp only [call, bring, Prod.mk.injEq, true_and] at h
          rw [← h]
          refine ⟨?_, rfl, ?_, ⟨_, _, _, _, _, _, _, rfl⟩, ?_, setup, ?_⟩
          · simp only [withSocket, session]
          · simp only [withSocket, Session.inbox, Socket.enqueueAll, inbox, ha]
          · rw [bring channel.network rfl rfl rfl rfl]
            rfl
          · rw [← refusals]
            funext kind
            cases kind with
            | opening => rfl
            | sending => exact refused_of_nextCall_none call
            | receiving => rfl

theorem send_error {data : Bytes} {destination : Endpoint}
    (h : channel.send data destination = (.error failure, after)) :
    ∃ refusal, (refusal = .opening ∨ refusal = .sending) ∧ channel.Dropped refusal after ∧
      ∃ message, channel.network.faults.Surfaces (refusal.error message) after.network.faults
        failure := by
  rw [send] at h
  cases opening : channel.ensureOpen with
  | mk result ready =>
    cases result with
    | error failed =>
      simp only [opening, Prod.mk.injEq, Except.error.injEq] at h
      obtain ⟨rfl, rfl⟩ := h
      exact ⟨.opening, .inl rfl, ensureOpen_error opening⟩
    | ok socket =>
      obtain ⟨session, inbox, ⟨create, bind, close, ports, created, sockets, hn⟩, refusals,
        closes⟩ := ensureOpen_ok opening
      simp only [opening, Network.send] at h
      cases call : nextCall ready.network.faults.send with
      | mk fault rest =>
        cases fault with
        | none => simp [call] at h
        | some reason =>
          simp only [call] at h
          obtain ⟨session', ⟨_, _, _, _, _, _, kept⟩, refusals', failed, he, surfaces⟩ :=
            abandon_spec (α := Unit)
              { ready with network :=
                  { ready.network with faults := { ready.network.faults with send := rest } } }
              (.send ("udp sendto failed: " ++ reason))
          rw [h] at session' kept refusals' he surfaces
          obtain rfl := Except.error.inj he
          have used := refused_of_nextCall_some call
          have surfaces : channel.network.faults.Surfaces (.send ("udp sendto failed: " ++ reason))
              after.network.faults failure := by
            simpa only [Faults.Surfaces, closes] using surfaces
          refine ⟨.sending, .inr rfl, ⟨?_, ?_, ?_, surfaces.close_eq_zero⟩, _, surfaces⟩
          · rw [session', session]
          · rw [hn] at kept
            exact ⟨_, _, _, _, _, _, _, _, kept⟩
          · intro kind
            rw [← refusals, refusals']
            cases kind with
            | opening => rfl
            | sending =>
              simp only [Faults.refusals, if_true]
              omega
            | receiving => rfl

theorem wait_eq {socket : Socket} (h : channel.session.socket = some socket) (timeoutMs : Int) :
    channel.wait timeoutMs =
      ((channel.network.wait socket timeoutMs).1,
        { channel with network := (channel.network.wait socket timeoutMs).2 }) := by
  simp [wait, ensureOpen, h]

/-- Where nothing interferes, the first datagram or the time ends a wait. -/
theorem wait_quiet (timeoutMs : Int) (opened : channel.session.isOpen)
    (quiet : channel.network.Quiet) (nonneg : 0 ≤ timeoutMs)
    (exact : timeoutMs < Network.exactWaitMs) :
    ∃ wait, refused wait = 0 ∧
      channel.wait timeoutMs =
        (.ok (channel.session.inbox.await channel.clock timeoutMs).1,
          { channel with
            network :=
              { channel.network with
                clock := (channel.session.inbox.await channel.clock timeoutMs).2
                waitsRev := timeoutMs :: channel.network.waitsRev
                faults := { channel.network.faults with wait } } }) := by
  obtain ⟨socket, hs⟩ := Option.isSome_iff_exists.mp opened
  obtain ⟨wait, unrefused, hw⟩ :=
    channel.network.wait_quiet socket quiet.wait nonneg exact
  refine ⟨wait, unrefused, ?_⟩
  rw [wait_eq hs, hw, Session.inbox_eq hs]
  rfl

theorem receive_ok {size : Int} {datagram : Datagram} (opened : channel.session.isOpen)
    (h : channel.receive size = (.ok datagram, after)) : channel.Taken size datagram after := by
  obtain ⟨socket, present⟩ := Option.isSome_iff_exists.mp opened
  simp only [receive, ensureOpen, present, Network.receive] at h
  cases call : nextCall channel.network.faults.receive with
  | mk fault rest =>
    cases fault with
    | some reason =>
      simp only [call] at h
      exact absurd h (abandon_ne_ok _ _ _ _)
    | none =>
      cases waiting : socket.inbox with
      | nil =>
        simp only [call, waiting] at h
        exact absurd h (abandon_ne_ok _ _ _ _)
      | cons arrival inbox =>
        simp only [call, waiting, Prod.mk.injEq, Except.ok.injEq] at h
        obtain ⟨rfl, rfl⟩ := h
        refine ⟨rfl, rfl, ⟨arrival, ?_, rfl⟩, ⟨rest, rfl⟩, ?_⟩
        · rw [Session.inbox_eq present, waiting]
          rfl
        · funext kind
          cases kind with
          | opening => rfl
          | sending => rfl
          | receiving => exact refused_of_nextCall_none call

theorem receive_error {size : Int} (opened : channel.session.isOpen)
    (waiting : channel.session.inbox ≠ []) (h : channel.receive size = (.error failure, after)) :
    channel.Dropped .receiving after ∧
      ∃ message, channel.network.faults.Surfaces (Refusal.receiving.error message)
        after.network.faults failure := by
  obtain ⟨socket, present⟩ := Option.isSome_iff_exists.mp opened
  simp only [receive, ensureOpen, present, Network.receive] at h
  cases call : nextCall channel.network.faults.receive with
  | mk fault rest =>
    cases fault with
    | none =>
      cases queued : socket.inbox with
      | nil => exact absurd ((Session.inbox_eq present).trans queued) waiting
      | cons arrival inbox => simp [call, queued] at h
    | some reason =>
      simp only [call] at h
      obtain ⟨session, ⟨_, _, _, _, _, _, kept⟩, refusals, failed, he, surfaces⟩ :=
        abandon_spec (α := Datagram)
          { channel with network :=
              { channel.network with
                faults := { channel.network.faults with receive := rest } } }
          (.receive ("recvfrom failed: " ++ reason))
      rw [h] at session kept refusals he surfaces
      obtain rfl := Except.error.inj he
      have used := refused_of_nextCall_some call
      refine ⟨⟨session, ⟨_, _, _, _, _, _, _, _, kept⟩, ?_, surfaces.close_eq_zero⟩, _, surfaces⟩
      intro kind
      rw [refusals]
      cases kind with
      | opening => rfl
      | sending => rfl
      | receiving =>
        simp only [Faults.refusals, if_true]
        omega

end Channel

/-- What every operation of a channel keeps. The clock, less what interruptions may still turn it
back, does not fall. -/
structure Channel.Steady (channel after : Channel) : Prop where
  hosts : after.network.hosts = channel.network.hosts
  wallOffset : after.network.wallOffset = channel.network.wallOffset
  quiet : channel.network.Quiet → after.network.Quiet
  clock : channel.clock - setback channel.network.faults.wait ≤
    after.clock - setback after.network.faults.wait
  spent : setback after.network.faults.wait ≤ setback channel.network.faults.wait

namespace Channel.Steady

variable {channel after : Channel}

theorem refl (channel : Channel) : channel.Steady channel :=
  ⟨rfl, rfl, id, Int.le_refl _, Int.le_refl _⟩

theorem trans {first second third : Channel} (h : first.Steady second) (h' : second.Steady third) :
    first.Steady third :=
  ⟨h'.hosts.trans h.hosts, h'.wallOffset.trans h.wallOffset, fun quiet => h'.quiet (h.quiet quiet),
    Int.le_trans h.clock h'.clock, Int.le_trans h'.spent h.spent⟩

/-- A clock that no interruption turns back only goes on. -/
theorem forward (steady : channel.Steady after)
    (forward : setback channel.network.faults.wait = 0) :
    setback after.network.faults.wait = 0 ∧ channel.clock ≤ after.clock := by
  have later := steady.clock
  have less := steady.spent
  have nonneg := setback_nonneg after.network.faults.wait
  omega

/-- An operation that does not wait. -/
theorem of_unmoved (hosts : after.network.hosts = channel.network.hosts)
    (wallOffset : after.network.wallOffset = channel.network.wallOffset)
    (quiet : channel.network.Quiet → after.network.Quiet) (clock : after.clock = channel.clock)
    (waits : after.network.faults.wait = channel.network.faults.wait) : channel.Steady after :=
  ⟨hosts, wallOffset, quiet, by rw [clock, waits], by rw [waits]⟩

theorem of_dropped {refusal : Refusal} (dropped : channel.Dropped refusal after) :
    channel.Steady after := by
  obtain ⟨_, _, _, _, _, _, _, _, hn⟩ := dropped.network
  apply of_unmoved
  · rw [hn]
  · rw [hn]
  · exact fun quiet => absurd quiet dropped.not_quiet
  · rw [Channel.clock, hn]
    rfl
  · exact dropped.waits

theorem send (channel : Channel) (data : Bytes) (destination : Endpoint) :
    channel.Steady (channel.send data destination).2 := by
  cases sending : channel.send data destination with
  | mk result after =>
    cases result with
    | error failure =>
      obtain ⟨refusal, -, dropped, -⟩ := send_error sending
      exact of_dropped dropped
    | ok =>
      have off := send_ok sending
      exact .of_unmoved off.hosts off.wallOffset off.quiet off.clock off.waits

theorem wait (channel : Channel) {timeoutMs : Int} (opened : channel.session.isOpen)
    (nonneg : 0 ≤ timeoutMs) : channel.Steady (channel.wait timeoutMs).2 := by
  obtain ⟨socket, hs⟩ := Option.isSome_iff_exists.mp opened
  rw [wait_eq hs]
  obtain ⟨⟨clock, waits, faults, hn⟩, later, less, fewer, -, -⟩ :=
    channel.network.wait_spec socket nonneg (Int.le_refl _)
  have quiet : channel.network.Quiet → (channel.network.wait socket timeoutMs).2.Quiet := by
    intro quiet
    have none := quiet.wait
    refine ⟨?_, by omega, ?_⟩
    · rw [hn]
      exact quiet.refusals
    · rw [hn]
      exact quiet.close
  refine ⟨?_, ?_, quiet, later, less⟩
  · rw [hn]
  · rw [hn]

theorem receive (channel : Channel) (size : Int) (opened : channel.session.isOpen)
    (waiting : channel.session.inbox ≠ []) : channel.Steady (channel.receive size).2 := by
  cases received : channel.receive size with
  | mk result after =>
    cases result with
    | error failure => exact of_dropped (receive_error opened waiting received).1
    | ok datagram =>
      have taken := receive_ok opened received
      obtain ⟨_, hn⟩ := taken.network
      apply of_unmoved
      · rw [hn]
      · rw [hn]
      · exact taken.quiet
      · exact taken.clock
      · exact taken.waits

end Channel.Steady

/-- What waiting, receiving and failing leave alone. Nothing is put into the inbox. -/
structure Channel.Passive (channel after : Channel) : Prop where
  sentRev : after.network.sentRev = channel.network.sentRev
  script : after.network.script = channel.network.script
  station : after.network.station = channel.network.station
  wallOffset : after.network.wallOffset = channel.network.wallOffset
  inbox : ∀ arrival ∈ after.session.inbox, arrival ∈ channel.session.inbox

namespace Channel.Passive

variable {channel after : Channel}

theorem of_dropped {refusal : Refusal} (dropped : channel.Dropped refusal after) :
    channel.Passive after := by
  obtain ⟨_, _, _, _, _, _, _, _, hn⟩ := dropped.network
  have empty : after.session.inbox = [] :=
    Session.inbox_eq_nil (congrArg Session.socket dropped.session)
  constructor
  · rw [hn]
  · rw [hn]
  · rw [hn]
  · rw [hn]
  · simp [empty]

theorem wait (channel : Channel) {timeoutMs : Int} (opened : channel.session.isOpen)
    (nonneg : 0 ≤ timeoutMs) : channel.Passive (channel.wait timeoutMs).2 := by
  obtain ⟨socket, hs⟩ := Option.isSome_iff_exists.mp opened
  obtain ⟨⟨_, _, _, hn⟩, -⟩ := channel.network.wait_spec socket nonneg (Int.le_refl _)
  rw [wait_eq hs, hn]
  exact ⟨rfl, rfl, rfl, rfl, fun _ mem => mem⟩

theorem receive (channel : Channel) (size : Int) (opened : channel.session.isOpen)
    (waiting : channel.session.inbox ≠ []) : channel.Passive (channel.receive size).2 := by
  cases received : channel.receive size with
  | mk result after =>
    cases result with
    | error failure => exact of_dropped (receive_error opened waiting received).1
    | ok datagram =>
      have taken := receive_ok opened received
      obtain ⟨arrival, inbox, -⟩ := taken.inbox
      obtain ⟨_, hn⟩ := taken.network
      refine ⟨taken.sentRev, ?_, ?_, ?_, ?_⟩
      · rw [hn]
      · rw [hn]
      · rw [hn]
      · intro one mem
        rw [inbox]
        exact List.mem_cons_of_mem _ mem

end Channel.Passive

end NtpQuery
