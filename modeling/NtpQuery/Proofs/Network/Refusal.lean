import NtpQuery.Network

/-!
# Refused calls

The system refuses calls in an order that the network holds. What matters about
it is how many refusals of each kind are still to come: every call that fails
uses up one of them, every call that succeeds uses up none. Equal counts before
and after a run therefore say that the run met no refusal.

Opening and closing a socket is housekeeping. It moves neither clock, and it
leaves alone what was sent and received and what will come in.
-/

namespace NtpQuery

/-- How many of the calls to come are refused. -/
def refused {α : Type} (calls : List (Option α)) : Nat :=
  calls.countP (·.isSome)

theorem refused_of_nextCall_none {α : Type} {calls rest : List (Option α)}
    (h : nextCall calls = (none, rest)) : refused rest = refused calls := by
  cases calls with
  | nil => cases h; rfl
  | cons call calls =>
    cases h
    simp [refused]

theorem refused_of_nextCall_some {α : Type} {calls rest : List (Option α)} {fault : α}
    (h : nextCall calls = (some fault, rest)) : refused rest + 1 = refused calls := by
  cases calls with
  | nil => cases h
  | cons call calls =>
    cases h
    simp [refused]

/-- The steps of a query that the system can refuse. -/
inductive Refusal where
  /-- Creating a socket or binding it. -/
  | opening
  | sending
  | receiving
  deriving DecidableEq, Repr

/-- The error that tells of a refusal. -/
def Refusal.error : Refusal → (message : String) → QueryError
  | .opening => .socket
  | .sending => .send
  | .receiving => .receive

namespace Faults

/-- How many refusals of a kind are to come. -/
def refusals (faults : Faults) : Refusal → Nat
  | .opening => refused faults.create + refused faults.bind
  | .sending => refused faults.send
  | .receiving => refused faults.receive

/-- One refusal of the given kind has been met, and none besides. -/
def Spent (faults : Faults) (refusal : Refusal) (after : Faults) : Prop :=
  ∀ kind, faults.refusals kind = after.refusals kind + if kind = refusal then 1 else 0

/-- What becomes of an error after which a socket is closed: it is reported, unless closing is
refused too. -/
def Surfaces (faults : Faults) (error : QueryError) (after : Faults) (failure : Failure) : Prop :=
  (failure = .reported error ∧ refused after.close = refused faults.close) ∨
    (failure = .system ∧ refused after.close + 1 = refused faults.close)

theorem Surfaces.reported {faults after : Faults} {error : QueryError} {failure : Failure}
    (surfaces : faults.Surfaces error after failure) (closing : refused faults.close = 0) :
    failure = .reported error := by
  rcases surfaces with ⟨reported, -⟩ | ⟨-, one⟩
  · exact reported
  · omega

theorem Surfaces.close_eq_zero {faults after : Faults} {error : QueryError} {failure : Failure}
    (surfaces : faults.Surfaces error after failure) (closing : refused faults.close = 0) :
    refused after.close = 0 := by
  rcases surfaces with ⟨-, same⟩ | ⟨-, one⟩
  · omega
  · omega

/-- Nothing is refused and no wait is interrupted. -/
structure Quiet (faults : Faults) : Prop where
  refusals : ∀ kind, faults.refusals kind = 0
  wait : refused faults.wait = 0
  close : refused faults.close = 0

theorem Spent.not_quiet {faults after : Faults} {refusal : Refusal}
    (spent : faults.Spent refusal after) : ¬ faults.Quiet := by
  intro quiet
  have one := spent refusal
  rw [quiet.refusals, if_pos rfl] at one
  omega

end Faults

namespace Network

def Quiet (net : Network) : Prop := net.faults.Quiet

/-- The second network is the first one after sockets were opened or closed. -/
def Housekeeping (net after : Network) : Prop :=
  ∃ create bind close portsAssigned socketsCreated openSockets,
    after =
      { net with
        faults := { net.faults with create, bind, close }
        portsAssigned, socketsCreated, openSockets }

theorem Housekeeping.refl (net : Network) : net.Housekeeping net :=
  ⟨_, _, _, _, _, _, rfl⟩

theorem Housekeeping.trans {first second third : Network} (h : first.Housekeeping second)
    (h' : second.Housekeeping third) : first.Housekeeping third := by
  obtain ⟨_, _, _, _, _, _, rfl⟩ := h
  obtain ⟨_, _, _, _, _, _, rfl⟩ := h'
  exact ⟨_, _, _, _, _, _, rfl⟩

theorem Quiet.of_same {net after : Network} (quiet : net.Quiet)
    (refusals : after.faults.refusals = net.faults.refusals)
    (wait : after.faults.wait = net.faults.wait) (close : after.faults.close = net.faults.close) :
    after.Quiet := by
  constructor
  · rw [refusals]
    exact quiet.refusals
  · rw [wait]
    exact quiet.wait
  · rw [close]
    exact quiet.close

/-- Closing fails when it is refused, and uses up no other refusal. -/
theorem closeSocket_spec (net : Network) (id : Nat) :
    net.Housekeeping (net.closeSocket id).2 ∧
      (net.closeSocket id).2.faults.refusals = net.faults.refusals ∧
      (((net.closeSocket id).1 = .ok () ∧
          refused (net.closeSocket id).2.faults.close = refused net.faults.close) ∨
        ((net.closeSocket id).1 = .error .system ∧
          refused (net.closeSocket id).2.faults.close + 1 = refused net.faults.close)) := by
  rw [closeSocket]
  cases call : nextCall net.faults.close with
  | mk fault close =>
    cases fault with
    | none => exact ⟨⟨_, _, _, _, _, _, rfl⟩, rfl, .inl ⟨rfl, refused_of_nextCall_none call⟩⟩
    | some reason =>
      exact ⟨⟨_, _, _, _, _, _, rfl⟩, rfl, .inr ⟨rfl, refused_of_nextCall_some call⟩⟩

/-- A socket is opened when neither of the two calls is refused. -/
theorem openSocket_eq_ok {net after : Network} {bindHost : String} {socket : Socket}
    (h : net.openSocket bindHost = (.ok socket, after)) :
    ∃ create bind, nextCall net.faults.create = (none, create) ∧
      nextCall net.faults.bind = (none, bind) ∧
      socket =
        { id := net.socketsCreated
          address := ⟨if bindHost.isEmpty then "0.0.0.0" else bindHost, net.assignPort.1⟩ } ∧
      after =
        { net with
          faults := { net.faults with create, bind }
          portsAssigned := net.portsAssigned + 1
          socketsCreated := net.socketsCreated + 1
          openSockets := net.socketsCreated :: net.openSockets } := by
  rw [openSocket] at h
  cases creating : nextCall net.faults.create with
  | mk fault create =>
    cases fault with
    | some reason => simp [creating] at h
    | none =>
      cases binding : nextCall net.faults.bind with
      | mk fault bind =>
        cases fault with
        | some reason =>
          simp only [creating, binding] at h
          split at h <;> simp at h
        | none =>
          simp only [creating, binding, assignPort, Prod.mk.injEq, Except.ok.injEq] at h
          obtain ⟨rfl, rfl⟩ := h
          exact ⟨create, bind, rfl, rfl, rfl, rfl⟩

theorem openSocket_ok {net after : Network} {bindHost : String} {socket : Socket}
    (h : net.openSocket bindHost = (.ok socket, after)) :
    net.Housekeeping after ∧ after.faults.refusals = net.faults.refusals ∧
      after.faults.close = net.faults.close := by
  obtain ⟨create, bind, creating, binding, -, rfl⟩ := openSocket_eq_ok h
  refine ⟨⟨_, _, _, _, _, _, rfl⟩, ?_, rfl⟩
  funext kind
  cases kind with
  | opening =>
    simp only [Faults.refusals, refused_of_nextCall_none creating,
      refused_of_nextCall_none binding]
  | sending => rfl
  | receiving => rfl

/-- A socket that cannot be opened is an error of its own, unless the half-made
one cannot be closed either. -/
theorem openSocket_error {net after : Network} {bindHost : String} {failure : Failure}
    (h : net.openSocket bindHost = (.error failure, after)) :
    net.Housekeeping after ∧ net.faults.Spent .opening after.faults ∧
      ∃ message, net.faults.Surfaces (.socket message) after.faults failure := by
  rw [openSocket] at h
  cases creating : nextCall net.faults.create with
  | mk fault create =>
    cases fault with
    | some reason =>
      simp only [creating, Prod.mk.injEq] at h
      obtain ⟨he, rfl⟩ := h
      have created := refused_of_nextCall_some creating
      refine ⟨⟨_, _, _, _, _, _, rfl⟩, ?_, _, .inl ⟨(Except.error.inj he).symm, rfl⟩⟩
      intro kind
      cases kind with
      | opening =>
        simp only [Faults.refusals, if_true]
        omega
      | sending => rfl
      | receiving => rfl
    | none =>
      cases binding : nextCall net.faults.bind with
      | mk fault bind =>
        cases fault with
        | none => simp [creating, binding] at h
        | some reason =>
          simp only [creating, binding] at h
          have created := refused_of_nextCall_none creating
          have bound := refused_of_nextCall_some binding
          generalize hn : Network.mk .. = half at h
          obtain ⟨kept, count, closes⟩ := half.closeSocket_spec net.socketsCreated
          have half_kept : net.Housekeeping half := ⟨_, _, _, _, _, _, hn.symm⟩
          have half_spent : net.faults.Spent .opening half.faults := by
            intro kind
            rw [← hn]
            cases kind with
            | opening =>
              simp only [Faults.refusals, if_true]
              omega
            | sending => rfl
            | receiving => rfl
          have half_close : half.faults.close = net.faults.close := by
            rw [← hn]
          cases closing : half.closeSocket net.socketsCreated with
          | mk result closed =>
            rw [closing, half_close] at closes
            rw [closing] at kept count
            have spent : net.faults.Spent .opening closed.faults := by
              rw [Faults.Spent, count]
              exact half_spent
            rcases closes with ⟨ended, same⟩ | ⟨ended, one⟩
            · obtain rfl : result = .ok () := ended
              simp only [closing, Prod.mk.injEq, Except.error.injEq] at h
              obtain ⟨rfl, rfl⟩ := h
              exact ⟨half_kept.trans kept, spent, _, .inl ⟨rfl, same⟩⟩
            · obtain rfl : result = .error .system := ended
              simp only [closing, Prod.mk.injEq, Except.error.injEq] at h
              obtain ⟨rfl, rfl⟩ := h
              exact ⟨half_kept.trans kept, spent, reason, .inr ⟨rfl, one⟩⟩

end Network

end NtpQuery
