import Mathlib.Data.List.Induction
import NtpQuery.Proofs.Session.Operation

/-!
# The life of a socket

Everything that can be done with a session is an action, and a run of a session
is a list of them, in any order and with any refusals except of closing. After
each action the socket of the session is the only one that is open, if the
session has one. An error drops it, and so does closing; anything else leaves
an open socket where it is. A closed session that is used gets a new socket
with an empty inbox, and from there on the action goes as on that socket.

What is in an inbox was put there while the same socket was open. A received
datagram is therefore traced back to the action that brought it in, and between
the two the session kept its socket.
-/

namespace NtpQuery

namespace Network

theorem closeSocket_unrefused (net : Network) (id : Nat) (closing : refused net.faults.close = 0) :
    ∃ close, refused close = 0 ∧
      net.closeSocket id =
        (.ok (),
          { net with
            faults := { net.faults with close }
            openSockets := net.openSockets.erase id }) := by
  rw [closeSocket]
  cases call : nextCall net.faults.close with
  | mk fault close =>
    cases fault with
    | none => exact ⟨close, (refused_of_nextCall_none call).trans closing, rfl⟩
    | some reason =>
      have one := refused_of_nextCall_some call
      omega

/-- A socket that cannot be bound does not stay open. -/
theorem openSocket_error_sockets {net after : Network} {bindHost : String} {failure : Failure}
    (closing : refused net.faults.close = 0)
    (h : net.openSocket bindHost = (.error failure, after)) :
    after.openSockets = net.openSockets ∧ net.socketsCreated ≤ after.socketsCreated := by
  rw [openSocket] at h
  cases creating : nextCall net.faults.create with
  | mk fault create =>
    cases fault with
    | some reason =>
      simp only [creating, Prod.mk.injEq] at h
      obtain ⟨-, rfl⟩ := h
      exact ⟨rfl, Nat.le_refl _⟩
    | none =>
      cases binding : nextCall net.faults.bind with
      | mk fault bind =>
        cases fault with
        | none => simp [creating, binding] at h
        | some reason =>
          simp only [creating, binding] at h
          generalize hn : Network.mk .. = half at h
          have unrefused : refused half.faults.close = 0 := by
            rw [← hn]
            exact closing
          obtain ⟨close, -, closed⟩ := half.closeSocket_unrefused net.socketsCreated unrefused
          simp only [closed, Prod.mk.injEq] at h
          obtain ⟨-, rfl⟩ := h
          rw [← hn]
          exact ⟨List.erase_cons_head _ _, Nat.le_succ _⟩

/-- A new socket has a number that no socket had before. -/
theorem openSocket_ok_sockets {net after : Network} {bindHost : String} {socket : Socket}
    (h : net.openSocket bindHost = (.ok socket, after)) :
    socket.id = net.socketsCreated ∧ after.openSockets = socket.id :: net.openSockets ∧
      after.socketsCreated = net.socketsCreated + 1 := by
  obtain ⟨create, bind, -, -, rfl, rfl⟩ := openSocket_eq_ok h
  exact ⟨rfl, rfl, rfl⟩

end Network

namespace Channel

/-- What is done with a session. -/
inductive Action where
  | ensureOpen
  | send (data : Bytes) (destination : Endpoint)
  | wait (timeoutMs : Int)
  | receive (size : Int)
  | close
  | nextSequence
  /-- A datagram that nothing sent has brought in reaches the socket. -/
  | arrive (delivery : Delivery)
  deriving DecidableEq, Repr

inductive Outcome where
  | done
  | waited (arrived : Bool)
  | received (datagram : Datagram)
  | numbered (sequence : Int)
  deriving DecidableEq, Repr

/-- Whether an action needs a socket, and so opens one where there is none. -/
def Action.uses : Action → Bool
  | .ensureOpen | .send _ _ | .wait _ | .receive _ => true
  | .close | .nextSequence | .arrive _ => false

def act (channel : Channel) : Action → Except Failure Outcome × Channel
  | .ensureOpen => (channel.ensureOpen.1.map fun _ => .done, channel.ensureOpen.2)
  | .send data destination =>
    ((channel.send data destination).1.map fun _ => .done, (channel.send data destination).2)
  | .wait timeoutMs => ((channel.wait timeoutMs).1.map .waited, (channel.wait timeoutMs).2)
  | .receive size => ((channel.receive size).1.map .received, (channel.receive size).2)
  | .close => (channel.close.1.map fun _ => .done, channel.close.2)
  | .nextSequence => (.ok (.numbered channel.nextSequence.1), channel.nextSequence.2)
  | .arrive delivery => (.ok .done, (channel.push delivery).2)

/-- Acts one after the other, also when some actions fail. -/
def actAll (channel : Channel) (actions : List Action) : Channel :=
  actions.foldl (fun channel action => (channel.act action).2) channel

@[simp] theorem actAll_nil (channel : Channel) : channel.actAll [] = channel := rfl

@[simp] theorem actAll_cons (channel : Channel) (action : Action) (actions : List Action) :
    channel.actAll (action :: actions) = (channel.act action).2.actAll actions := rfl

theorem actAll_append (channel : Channel) (actions others : List Action) :
    channel.actAll (actions ++ others) = (channel.actAll actions).actAll others :=
  List.foldl_append

/-- The datagrams that an action puts into the inbox of the session. -/
def delivered (channel : Channel) (action : Action) : List Arrival :=
  match (channel.act action).1, action with
  | .ok _, .send data destination => (channel.network.bring data destination).1
  | .ok _, .arrive delivery =>
    if channel.session.isOpen then [⟨channel.clock + delivery.delayMs, delivery.datagram⟩] else []
  | _, _ => []

/-- The socket of the session is the only one that is open, and closing is never refused. -/
structure Tidy (channel : Channel) : Prop where
  sole : channel.network.openSockets = (channel.session.socket.map Socket.id).toList
  known : ∀ socket ∈ channel.session.socket, socket.id < channel.network.socketsCreated
  closing : refused channel.network.faults.close = 0

/-- The second channel is the first one with a new socket, which has received nothing. -/
structure Renewed (channel : Channel) (fresh : Socket) (ready : Channel) : Prop where
  session : ready.session = { channel.session with socket := some fresh }
  id : fresh.id = channel.network.socketsCreated
  inbox : fresh.inbox = []
  network : channel.network.Housekeeping ready.network
  sockets : ready.network.openSockets = fresh.id :: channel.network.openSockets
  created : ready.network.socketsCreated = channel.network.socketsCreated + 1
  closing : ready.network.faults.close = channel.network.faults.close

/-- How a closed session is used: there is an error for want of a socket, or the action goes as
on a new one. -/
inductive Renews (channel : Channel) (action : Action) : Prop
  | refused {message : String} {after : Channel}
      (result : channel.act action = (.error (.reported (.socket message)), after))
      (session : after.session = channel.session)
      (sockets : after.network.openSockets = channel.network.openSockets)
      (created : channel.network.socketsCreated ≤ after.network.socketsCreated)
      (closing : NtpQuery.refused after.network.faults.close = 0)
  | renewed {fresh : Socket} {ready : Channel} (renewed : channel.Renewed fresh ready)
      (same : channel.act action = ready.act action)

/-- What becomes of the socket and of the sequence number of a session in an action. -/
structure Orderly (channel : Channel) (action : Action) : Prop where
  tidy : (channel.act action).2.Tidy
  created : channel.network.socketsCreated ≤ (channel.act action).2.network.socketsCreated
  /-- After an error the session is closed. -/
  dropped : ∀ error, (channel.act action).1 = .error (.reported error) →
    (channel.act action).2.session.socket = none
  closed : action = .close → (channel.act action).2.session.socket = none
  /-- Without one, an open socket stays, and with it the local address. -/
  kept : (∀ error, (channel.act action).1 ≠ .error (.reported error)) → action ≠ .close →
    ∀ socket ∈ channel.session.socket,
      ∃ inbox, (channel.act action).2.session.socket = some { socket with inbox }
  renewed : action.uses → channel.session.socket = none → channel.Renews action
  unnumbered : action ≠ .nextSequence →
    (channel.act action).2.session.sequence = channel.session.sequence
  numbered : action = .nextSequence →
    (channel.act action).1 = .ok (.numbered ((channel.session.sequence + 1) % 65536)) ∧
      (channel.act action).2.session.sequence = (channel.session.sequence + 1) % 65536

/-- A received datagram was delivered by an earlier action, and since then the session had the
socket that it was received from. -/
def Delivered (start : Channel) (earlier : List Action) (size : Int) (datagram : Datagram) :
    Prop :=
  ∃ first action middle arrival, earlier = first ++ action :: middle ∧
    arrival ∈ (start.actAll first).delivered action ∧ datagram = arrival.datagram.cut size ∧
    ∃ id, ∀ part, part <+: middle →
      (start.actAll (first ++ action :: part)).session.socket.map Socket.id = some id

/-- The second channel is the first one with its socket closed. -/
structure Released (channel : Channel) (socket : Socket) (after : Channel) : Prop where
  session : after.session = { channel.session with socket := none }
  sockets : after.network.openSockets = channel.network.openSockets.erase socket.id
  created : after.network.socketsCreated = channel.network.socketsCreated
  closing : refused after.network.faults.close = 0

/-- The second channel is the first one with the same socket, whose inbox may have changed. -/
structure Retained (channel : Channel) (socket : Socket) (action : Action) (after : Channel) :
    Prop where
  session : ∃ inbox, after.session.socket = some { socket with inbox } ∧
    ∀ arrival ∈ inbox, arrival ∈ socket.inbox ∨ arrival ∈ channel.delivered action
  sockets : after.network.openSockets = channel.network.openSockets
  created : after.network.socketsCreated = channel.network.socketsCreated
  closing : after.network.faults.close = channel.network.faults.close
  sequence : action ≠ .nextSequence → after.session.sequence = channel.session.sequence

/-- What an action makes of an open socket. -/
inductive Handled (channel : Channel) (socket : Socket) (action : Action)
    (result : Except Failure Outcome) (after : Channel) : Prop
  | closed (closes : action = .close) (released : channel.Released socket after)
  | dropped {error : QueryError} (reported : result = .error (.reported error))
      (released : channel.Released socket after)
  | stayed (unreported : ∀ error, result ≠ .error (.reported error)) (open_ : action ≠ .close)
      (retained : channel.Retained socket action after)

section Open

variable {channel after : Channel} {socket : Socket}

theorem ensureOpen_of_open (opened : channel.session.socket = some socket) :
    channel.ensureOpen = (.ok socket, channel) := by
  simp only [ensureOpen, opened]

theorem close_of_open (opened : channel.session.socket = some socket)
    (closing : refused channel.network.faults.close = 0) :
    channel.close.1 = .ok () ∧ channel.Released socket channel.close.2 := by
  obtain ⟨close, unrefused, closed⟩ := channel.network.closeSocket_unrefused socket.id closing
  simp only [Channel.close, opened, closed, true_and]
  exact ⟨rfl, rfl, rfl, unrefused⟩

/-- An open socket is given up on a network where a call has just been refused. -/
theorem abandon_of_open {α : Type} {network : Network} {result : Except Failure α}
    {error : QueryError} (opened : channel.session.socket = some socket)
    (h : abandon { channel with network } error = (result, after))
    (closing : refused network.faults.close = 0)
    (sockets : network.openSockets = channel.network.openSockets)
    (created : network.socketsCreated = channel.network.socketsCreated) :
    result = .error (.reported error) ∧ channel.Released socket after := by
  obtain ⟨ended, released⟩ :=
    @close_of_open { channel with network } socket opened closing
  rw [abandon] at h
  cases closed : ({ channel with network } : Channel).close with
  | mk ending next =>
    rw [closed] at ended released
    obtain rfl : ending = .ok () := ended
    simp only [closed, Prod.mk.injEq] at h
    obtain ⟨rfl, rfl⟩ := h
    exact ⟨rfl, released.session, released.sockets.trans (by rw [sockets]),
      released.created.trans created, released.closing⟩

theorem handled_send (opened : channel.session.socket = some socket)
    (closing : refused channel.network.faults.close = 0) (data : Bytes) (destination : Endpoint) :
    channel.Handled socket (.send data destination) (channel.act (.send data destination)).1
      (channel.act (.send data destination)).2 := by
  cases sending : channel.send data destination with
  | mk result after =>
    have expanded := sending
    simp only [send, ensureOpen_of_open opened, Network.send] at expanded
    simp only [act, sending]
    cases call : nextCall channel.network.faults.send with
    | mk fault rest =>
      cases fault with
      | some reason =>
        simp only [call] at expanded
        obtain ⟨rfl, released⟩ := abandon_of_open opened expanded closing rfl rfl
        exact .dropped rfl released
      | none =>
        obtain ⟨station, -, bring⟩ := channel.network.bring_eq data destination
        generalize ha : (channel.network.bring data destination).1 = arrivals at bring
        simp only [call, bring, Prod.mk.injEq] at expanded
        obtain ⟨rfl, rfl⟩ := expanded
        refine .stayed (by simp [Except.map]) (by simp) ⟨⟨_, rfl, ?_⟩, rfl, rfl, rfl, fun _ => rfl⟩
        intro arrival mem
        have origin := Inbox.mem_enqueueAll.mp mem
        simpa only [delivered, act, sending, Except.map, ha, or_comm] using origin

theorem handled_wait (opened : channel.session.socket = some socket) (timeoutMs : Int) :
    channel.Handled socket (.wait timeoutMs) (channel.act (.wait timeoutMs)).1
      (channel.act (.wait timeoutMs)).2 := by
  have same : channel.network.wait socket timeoutMs =
      channel.network.wait socket (max 0 timeoutMs) := by
    simp only [Network.wait, show max 0 (max 0 timeoutMs) = max 0 timeoutMs by omega]
  obtain ⟨⟨_, _, _, network⟩, -, -, -, -, failure⟩ :=
    channel.network.wait_spec socket (Int.le_max_left 0 timeoutMs) (Int.le_refl _)
  rw [← same] at network failure
  simp only [act, wait_eq opened, network]
  refine .stayed ?_ (by simp) ⟨⟨socket.inbox, opened, fun _ => .inl⟩, rfl, rfl, rfl, fun _ => rfl⟩
  intro error reported
  cases waited : (channel.network.wait socket timeoutMs).1 with
  | ok arrived => simp [waited, Except.map] at reported
  | error failed =>
    obtain ⟨rfl, -⟩ := failure failed waited
    simp [waited, Except.map] at reported

theorem handled_receive (opened : channel.session.socket = some socket)
    (closing : refused channel.network.faults.close = 0) (size : Int) :
    channel.Handled socket (.receive size) (channel.act (.receive size)).1
      (channel.act (.receive size)).2 := by
  cases receiving : channel.receive size with
  | mk result after =>
    have expanded := receiving
    simp only [receive, ensureOpen_of_open opened, Network.receive] at expanded
    simp only [act, receiving]
    cases call : nextCall channel.network.faults.receive with
    | mk fault rest =>
      cases fault with
      | some reason =>
        simp only [call] at expanded
        obtain ⟨rfl, released⟩ := abandon_of_open opened expanded closing rfl rfl
        exact .dropped rfl released
      | none =>
        cases waiting : socket.inbox with
        | nil =>
          simp only [call, waiting] at expanded
          obtain ⟨rfl, released⟩ := abandon_of_open opened expanded closing rfl rfl
          exact .dropped rfl released
        | cons first inbox =>
          simp only [call, waiting, Prod.mk.injEq] at expanded
          obtain ⟨rfl, rfl⟩ := expanded
          refine .stayed (by simp [Except.map]) (by simp)
            ⟨⟨inbox, rfl, ?_⟩, rfl, rfl, rfl, fun _ => rfl⟩
          intro arrival mem
          rw [waiting]
          exact .inl (List.mem_cons_of_mem _ mem)

/-- Every action on an open session is one of three things to its socket. -/
theorem handled_act (opened : channel.session.socket = some socket)
    (closing : refused channel.network.faults.close = 0) (action : Action) :
    channel.Handled socket action (channel.act action).1 (channel.act action).2 := by
  cases action with
  | ensureOpen =>
    simp only [act, ensureOpen_of_open opened]
    exact .stayed (by simp [Except.map]) (by simp)
      ⟨⟨socket.inbox, opened, fun _ => .inl⟩, rfl, rfl, rfl, fun _ => rfl⟩
  | send data destination => exact handled_send opened closing data destination
  | wait timeoutMs => exact handled_wait opened timeoutMs
  | receive size => exact handled_receive opened closing size
  | close => exact .closed rfl (close_of_open opened closing).2
  | nextSequence =>
    exact .stayed (by simp [act]) (by simp)
      ⟨⟨socket.inbox, opened, fun _ => .inl⟩, rfl, rfl, rfl, fun other => absurd rfl other⟩
  | arrive delivery =>
    have isOpen : channel.session.isOpen := by simp [Session.isOpen, opened]
    refine .stayed (by simp [act]) (by simp) ?_
    simp only [act, push, opened]
    refine ⟨⟨_, rfl, ?_⟩, rfl, rfl, rfl, fun _ => rfl⟩
    intro arrival mem
    have origin := Inbox.mem_enqueue.mp mem
    simpa only [delivered, act, isOpen, if_true, List.mem_singleton, or_comm] using origin

end Open

section Closed

variable {channel : Channel} {action : Action}

/-- A session is opened before it is used. -/
theorem act_of_uses (use : action.uses) {result : Except Failure Socket} {ready : Channel}
    (opening : channel.ensureOpen = (result, ready)) :
    channel.act action =
      match result with
      | .error failure => (.error failure, ready)
      | .ok _ => ready.act action := by
  cases result with
  | error failure =>
    cases action <;> simp [act, send, wait, receive, opening, Except.map, Action.uses] at use ⊢
  | ok socket =>
    have reopening := ensureOpen_of_open (congrArg Session.socket (ensureOpen_ok opening).session)
    cases action <;> simp [act, send, wait, receive, opening, reopening, Action.uses] at use ⊢

theorem renews_act (closed : channel.session.socket = none)
    (closing : refused channel.network.faults.close = 0) (use : action.uses) :
    channel.Renews action := by
  cases opening : channel.ensureOpen with
  | mk result ready =>
    have same := act_of_uses use opening
    have expanded := opening
    simp only [ensureOpen, closed] at expanded
    cases result with
    | error failure =>
      obtain ⟨dropped, message, surfaces⟩ := ensureOpen_error opening
      obtain rfl := surfaces.reported closing
      cases created : channel.network.openSocket channel.session.bindHost with
      | mk result network =>
        cases result with
        | ok fresh => simp [created] at expanded
        | error failed =>
          simp only [created, Prod.mk.injEq] at expanded
          obtain ⟨-, rfl⟩ := expanded
          obtain ⟨sockets, more⟩ := Network.openSocket_error_sockets closing created
          exact .refused same rfl sockets more (dropped.close closing)
    | ok fresh =>
      obtain ⟨session, inbox, network, -, unclosed⟩ := ensureOpen_ok opening
      cases created : channel.network.openSocket channel.session.bindHost with
      | mk result after =>
        cases result with
        | error failed => simp [created] at expanded
        | ok socket =>
          simp only [created, Prod.mk.injEq, Except.ok.injEq] at expanded
          obtain ⟨rfl, rfl⟩ := expanded
          obtain ⟨id, sockets, more⟩ := Network.openSocket_ok_sockets created
          rw [Session.inbox_eq_nil closed] at inbox
          exact .renewed ⟨session, id, inbox, network, sockets, more, unclosed⟩ same

/-- The action on the new socket delivers what it delivers to the closed session. -/
theorem Renewed.delivered {fresh : Socket} {ready : Channel} (renewed : channel.Renewed fresh ready)
    (use : action.uses) (same : channel.act action = ready.act action) :
    ready.delivered action = channel.delivered action := by
  unfold Channel.delivered
  rw [same]
  cases result : (ready.act action).1 with
  | error failure => rfl
  | ok outcome =>
    cases action with
    | send data destination =>
      obtain ⟨_, _, _, _, _, _, network⟩ := renewed.network
      obtain ⟨station, -, bring⟩ := channel.network.bring_eq data destination
      simp only [bring ready.network (by rw [network]) (by rw [network]) (by rw [network])
        (by rw [network])]
    | arrive delivery => simp [Action.uses] at use
    | _ => rfl

theorem Renewed.tidy {fresh : Socket} {ready : Channel} (renewed : channel.Renewed fresh ready)
    (closed : channel.session.socket = none) (tidy : channel.Tidy) : ready.Tidy := by
  have sole := tidy.sole
  rw [closed] at sole
  refine ⟨?_, ?_, ?_⟩
  · rw [renewed.sockets, renewed.session, sole]
    rfl
  · rw [renewed.session]
    rintro socket ⟨⟩
    rw [renewed.id, renewed.created]
    exact Nat.lt_succ_self _
  · rw [renewed.closing]
    exact tidy.closing

end Closed

section Step

variable {channel : Channel} {socket : Socket} {action : Action}

theorem Released.tidy {after : Channel} (released : channel.Released socket after)
    (opened : channel.session.socket = some socket) (tidy : channel.Tidy) : after.Tidy := by
  have sole := tidy.sole
  rw [opened] at sole
  refine ⟨?_, ?_, released.closing⟩
  · rw [released.sockets, released.session, sole]
    exact List.erase_cons_head _ _
  · rw [released.session]
    rintro socket ⟨⟩

theorem Retained.tidy {after : Channel} (retained : channel.Retained socket action after)
    (opened : channel.session.socket = some socket) (tidy : channel.Tidy) : after.Tidy := by
  obtain ⟨inbox, session, -⟩ := retained.session
  refine ⟨?_, ?_, ?_⟩
  · rw [retained.sockets, tidy.sole, opened, session]
    rfl
  · rw [session, retained.created]
    rintro _ ⟨⟩
    exact tidy.known socket opened
  · rw [retained.closing]
    exact tidy.closing

theorem orderly_of_open (tidy : channel.Tidy) (opened : channel.session.socket = some socket)
    (action : Action) : channel.Orderly action := by
  have numbered : action = .nextSequence →
      (channel.act action).1 = .ok (.numbered ((channel.session.sequence + 1) % 65536)) ∧
        (channel.act action).2.session.sequence = (channel.session.sequence + 1) % 65536 := by
    rintro rfl
    exact ⟨rfl, rfl⟩
  have renewed : action.uses → channel.session.socket = none → channel.Renews action := by
    intro _ closed
    simp [opened] at closed
  cases handled_act opened tidy.closing action with
  | closed closes released =>
    have gone : (channel.act action).2.session.socket = none := by rw [released.session]
    refine ⟨released.tidy opened tidy, Nat.le_of_eq released.created.symm, fun _ _ => gone,
      fun _ => gone, fun _ other => absurd closes other, renewed, fun _ => ?_, numbered⟩
    rw [released.session]
  | dropped reported released =>
    have gone : (channel.act action).2.session.socket = none := by rw [released.session]
    refine ⟨released.tidy opened tidy, Nat.le_of_eq released.created.symm, fun _ _ => gone,
      fun _ => gone, fun unreported => absurd reported (unreported _), renewed, fun _ => ?_,
      numbered⟩
    rw [released.session]
  | stayed unreported unclosed retained =>
    obtain ⟨inbox, session, -⟩ := retained.session
    refine ⟨retained.tidy opened tidy, Nat.le_of_eq retained.created.symm,
      fun error reported => absurd reported (unreported error),
      fun closes => absurd closes unclosed, fun _ _ other present => ?_, renewed,
      retained.sequence, numbered⟩
    obtain rfl := Option.some.inj (opened.symm.trans present)
    exact ⟨inbox, session⟩

theorem orderly_of_closed (tidy : channel.Tidy) (closed : channel.session.socket = none)
    (use : action.uses) : channel.Orderly action := by
  have unnumbered : action ≠ .nextSequence := by
    rintro rfl
    simp [Action.uses] at use
  have renews : action.uses → channel.session.socket = none → channel.Renews action :=
    fun use closed => renews_act closed tidy.closing use
  cases renews use closed with
  | refused result session sockets created closing =>
    have still := (congrArg Session.socket session).trans closed
    rw [← session] at closed
    refine ⟨⟨?_, ?_, ?_⟩, ?_, fun _ _ => ?_, fun _ => ?_, ?_, renews, fun _ => ?_,
      fun one => absurd one unnumbered⟩
    all_goals simp only [result]
    · rw [sockets, tidy.sole, session]
    · simp [still]
    · exact closing
    · exact created
    · exact still
    · exact still
    · intro unreported
      exact absurd rfl (unreported _)
    · rw [session]
  | renewed fresh same =>
    have opened := congrArg Session.socket fresh.session
    obtain ⟨tidy', created, dropped, gone, -, -, sequence, -⟩ :=
      orderly_of_open (fresh.tidy closed tidy) opened action
    rw [← same] at tidy' created dropped gone sequence
    have more := fresh.created
    refine ⟨tidy', by omega, dropped, gone, fun _ _ socket present => ?_, renews,
      fun other => ?_, fun one => absurd one unnumbered⟩
    · rw [closed] at present
      cases present
    · rw [sequence other, fresh.session]

/-- One action keeps the session in order. -/
theorem orderly (tidy : channel.Tidy) (action : Action) : channel.Orderly action := by
  cases present : channel.session.socket with
  | some socket => exact orderly_of_open tidy present action
  | none =>
    by_cases use : action.uses
    · exact orderly_of_closed tidy present use
    · have idle : (channel.act action).2.network = channel.network ∧
          (channel.act action).2.session.socket = none := by
        cases action <;> simp_all [Action.uses, act, Channel.close, push, nextSequence]
      obtain ⟨network, still⟩ := idle
      refine ⟨⟨?_, ?_, ?_⟩, ?_, fun _ _ => still, fun _ => still, ?_, fun used => absurd used use,
        ?_, ?_⟩
      · rw [network, still, tidy.sole, present]
      · simp [still]
      · rw [network]
        exact tidy.closing
      · exact Nat.le_of_eq (congrArg Network.socketsCreated network).symm
      · simp [present]
      · cases action <;> simp_all [Action.uses, act, Channel.close, push, nextSequence]
      · rintro rfl
        exact ⟨rfl, rfl⟩

/-- What waits in an inbox was delivered by the last action, or was there before on the same
socket. -/
theorem origin_act {arrival : Arrival} (tidy : channel.Tidy)
    (present : (channel.act action).2.session.socket = some socket)
    (mem : arrival ∈ socket.inbox) :
    arrival ∈ channel.delivered action ∨
      ∃ old ∈ channel.session.socket, old.id = socket.id ∧ arrival ∈ old.inbox := by
  -- Whatever the socket was, an action on an open session leaves nothing of any other socket.
  have of_open : ∀ {ready : Channel} {old : Socket}, ready.session.socket = some old →
      refused ready.network.faults.close = 0 → ready.act action = channel.act action →
      arrival ∈ ready.delivered action ∨ old.id = socket.id ∧ arrival ∈ old.inbox := by
    intro ready old opened closing same
    have handled := handled_act opened closing action
    rw [same] at handled
    cases handled with
    | closed closes released => simp [released.session] at present
    | dropped reported released => simp [released.session] at present
    | stayed unreported unclosed retained =>
      obtain ⟨inbox, session, delivered⟩ := retained.session
      obtain rfl := Option.some.inj (session.symm.trans present)
      rcases delivered arrival mem with before | now
      · exact .inr ⟨rfl, before⟩
      · exact .inl now
  cases before : channel.session.socket with
  | some old =>
    rcases of_open before tidy.closing rfl with now | earlier
    · exact .inl now
    · exact .inr ⟨old, rfl, earlier⟩
  | none =>
    by_cases use : action.uses
    · cases renews_act before tidy.closing use with
      | refused result session => simp [result, session, before] at present
      | renewed fresh same =>
        have closing := fresh.closing ▸ tidy.closing
        have opened := congrArg Session.socket fresh.session
        rcases of_open opened closing same.symm with now | ⟨-, old⟩
        · rw [fresh.delivered use same] at now
          exact .inl now
        · simp [fresh.inbox] at old
    · cases action <;> simp_all [Action.uses, act, Channel.close, push, nextSequence]

end Step

section Run

variable {start : Channel}

theorem tidy_actAll (tidy : start.Tidy) (actions : List Action) : (start.actAll actions).Tidy := by
  induction actions generalizing start with
  | nil => exact tidy
  | cons action actions ih => exact ih (orderly tidy action).tidy

/-- Everything in an inbox was delivered to that very socket, which was never given up since. -/
theorem origin_actAll (tidy : start.Tidy) (closed : start.session.socket = none)
    (actions : List Action) {socket : Socket} {arrival : Arrival}
    (present : (start.actAll actions).session.socket = some socket)
    (mem : arrival ∈ socket.inbox) :
    ∃ first action middle, actions = first ++ action :: middle ∧
      arrival ∈ (start.actAll first).delivered action ∧
      ∀ part, part <+: middle →
        (start.actAll (first ++ action :: part)).session.socket.map Socket.id =
          some socket.id := by
  induction actions using List.reverseRecOn generalizing socket with
  | nil =>
    rw [actAll_nil, closed] at present
    cases present
  | append_singleton earlier last ih =>
    have before := tidy_actAll tidy earlier
    rw [actAll_append] at present
    rcases origin_act before present mem with now | ⟨old, was, same, there⟩
    · refine ⟨earlier, last, [], rfl, now, fun part prefixed => ?_⟩
      obtain rfl := List.prefix_nil.mp prefixed
      rw [actAll_append]
      exact congrArg (Option.map Socket.id) present
    · obtain ⟨first, action, middle, rfl, delivered, kept⟩ := ih was there
      refine ⟨first, action, middle ++ [last], by simp, delivered, fun part prefixed => ?_⟩
      rcases List.prefix_concat_iff.mp prefixed with rfl | shorter
      · have joined :
            first ++ action :: (middle ++ [last]) = first ++ action :: middle ++ [last] := by
          simp
        rw [joined, actAll_append]
        exact congrArg (Option.map Socket.id) present
      · rw [kept part shorter, same]

/-- A datagram that is received was delivered to the socket that it is received from. -/
theorem delivered_of_received (tidy : start.Tidy) (closed : start.session.socket = none)
    {earlier : List Action} {size : Int} {datagram : Datagram}
    (received : ((start.actAll earlier).act (.receive size)).1 = .ok (.received datagram)) :
    start.Delivered earlier size datagram := by
  have before := tidy_actAll tidy earlier
  generalize here : start.actAll earlier = channel at received before
  -- A closed session would receive from a new socket, which holds nothing.
  have of_open : ∀ {ready : Channel} {socket : Socket}, ready.session.socket = some socket →
      (ready.act (.receive size)).1 = .ok (.received datagram) →
      ∃ arrival ∈ socket.inbox, datagram = arrival.datagram.cut size := by
    intro ready socket opened received
    cases result : ready.receive size with
    | mk outcome after =>
      cases outcome with
      | error failure => simp [act, result, Except.map] at received
      | ok taken =>
        simp only [act, result, Except.map, Except.ok.injEq, Outcome.received.injEq] at received
        obtain ⟨arrival, inbox, cut⟩ :=
          (receive_ok (by simp [Session.isOpen, opened]) result).inbox
        rw [Session.inbox_eq opened] at inbox
        exact ⟨arrival, inbox ▸ List.mem_cons_self, received ▸ cut⟩
  cases present : channel.session.socket with
  | some socket =>
    obtain ⟨arrival, mem, cut⟩ := of_open present received
    rw [← here] at present
    obtain ⟨first, action, middle, split, delivered, kept⟩ :=
      origin_actAll tidy closed earlier present mem
    exact ⟨first, action, middle, arrival, split, delivered, cut, socket.id, kept⟩
  | none =>
    have renews : channel.Renews (.receive size) :=
      renews_act present before.closing rfl
    cases renews with
    | refused result => simp [result] at received
    | renewed fresh same =>
      rw [same] at received
      obtain ⟨arrival, mem, -⟩ := of_open (congrArg Session.socket fresh.session) received
      simp [fresh.inbox] at mem

end Run

end Channel

end NtpQuery
