import NtpQuery.Client
import NtpQuery.Proofs.Budget
import NtpQuery.Proofs.Correlator
import NtpQuery.Proofs.Wire.Control

/-!
# How queries go

A query has few ways to go, and each is a constructor here: refused before
anything is sent, without an answer, or answered, and for a status query what
becomes of its follow-up. Later proofs take a query apart by these cases and
never unfold it.

Queries follow each other on one client, and what one leaves behind the next
one finds. `Carried` is a relation that fetching, asking and taking notes bring
about; it then holds across queries of any kind and number.
-/

namespace NtpQuery

theorem mapError_eq_ok {ε ε' α : Type} {result : Except ε α} {f : ε → ε'} {a : α} :
    result.mapError f = .ok a ↔ result = .ok a := by
  cases result with
  | error failure =>
    show Except.error (f failure) = .ok a ↔ _
    simp
  | ok b =>
    show Except.ok b = .ok a ↔ _
    simp

theorem Network.resolve_error {network : Network} {host : String} {port : Int}
    {error : QueryError} (unresolved : network.resolve host port = .error error) :
    ∃ message, error = .address message := by
  rw [resolve] at unresolved
  split at unresolved
  · exact ⟨_, (Except.error.inj unresolved).symm⟩
  · split at unresolved
    · simp at unresolved
    · exact ⟨_, (Except.error.inj unresolved).symm⟩

/-- A query, which asks a server for its variables or for its time. -/
inductive Call where
  | status (request : Request)
  | time (request : Request)
  deriving Repr, Inhabited

def Call.request : Call → Request
  | .status request => request
  | .time request => request

namespace Client

/-- What a control exchange accepts. -/
theorem variablesExchange_accept {budget : Budget} {destination : Endpoint}
    {association sequence : Int} {payload : Bytes} {datagram : Datagram} {packet : ControlPacket} :
    (variablesExchange budget destination association sequence payload).accept datagram =
        .ok packet ↔
      ControlPacket.decode datagram.data = .ok packet ∧ packet.isResponse = true ∧
        datagram.source = destination ∧ packet.sequence = sequence :=
  mapError_eq_ok.trans Correlator.control_eq_ok

/-- What a time exchange accepts. -/
theorem timeExchange_accept {budget : Budget} {destination : Endpoint} {datagram : Datagram}
    {packet : ClientPacket} :
    (timeExchange budget destination).accept datagram = .ok packet ↔
      ClientPacket.decodeAnswer datagram.data = .ok packet ∧
        datagram.source.host = destination.host :=
  mapError_eq_ok.trans Correlator.client_eq_ok

/-- A request is accepted when it makes a budget and names a known host and a port that exists. -/
theorem accept_of_lookup {client : Client} {request : Request} {budget : Budget} {address : String}
    {others : List String}
    (made : client.defaults.override request.retries request.timeoutMs = .ok budget)
    (found : client.network.lookup request.host = some (address :: others))
    (port : 1 ≤ request.port ∧ request.port ≤ 65535) :
    client.accept request = .ok (budget, ⟨address, request.port⟩) := by
  have resolved : client.network.resolve request.host request.port =
      .ok ⟨address, request.port⟩ := by
    rw [Network.resolve, if_neg (by omega), found]
  simp only [accept, made, resolved]

/-- A request is refused for its budget, or else for its address. -/
theorem accept_error {client : Client} {request : Request} {failure : Failure}
    (refusal : client.accept request = .error failure) :
    (∃ message, failure = .reported (.argument message) ∧
      client.defaults.override request.retries request.timeoutMs = .error (.argument message)) ∨
    ∃ message, failure = .reported (.address message) := by
  rw [accept] at refusal
  split at refusal
  · rename_i error refused
    obtain ⟨message, rfl⟩ := Budget.override_error refused
    exact .inl ⟨message, (Except.error.inj refusal).symm, refused⟩
  · split at refusal
    · rename_i error unresolved
      obtain ⟨message, rfl⟩ := Network.resolve_error unresolved
      exact .inr ⟨message, (Except.error.inj refusal).symm⟩
    · simp at refusal

/-- An accepted query has the budget that its request makes of the defaults. -/
theorem override_of_accept {client : Client} {request : Request} {budget : Budget}
    {destination : Endpoint} (accepted : client.accept request = .ok (budget, destination)) :
    client.defaults.override request.retries request.timeoutMs = .ok budget := by
  rw [accept] at accepted
  split at accepted
  · simp at accepted
  · rename_i made
    split at accepted
    · simp at accepted
    · rw [made, (Prod.mk.inj (Except.ok.inj accepted)).1]

/-- An accepted query goes to a port. -/
theorem port_of_accept {client : Client} {request : Request} {budget : Budget}
    {destination : Endpoint} (accepted : client.accept request = .ok (budget, destination)) :
    1 ≤ destination.port ∧ destination.port ≤ 65535 := by
  simp only [accept, Network.resolve] at accepted
  split at accepted
  · simp at accepted
  · split at accepted
    · simp at accepted
    · rename_i resolved
      split at resolved
      · simp at resolved
      · split at resolved
        · obtain rfl := Except.ok.inj resolved
          obtain ⟨-, rfl⟩ := Prod.mk.inj (Except.ok.inj accepted)
          simp only
          omega
        · simp at resolved

/-- A request is accepted with one budget and for one destination. -/
theorem accept_unique {client : Client} {request : Request} {budget budget' : Budget}
    {destination destination' : Endpoint}
    (accepted : client.accept request = .ok (budget, destination))
    (accepted' : client.accept request = .ok (budget', destination')) :
    budget = budget' ∧ destination = destination' :=
  Prod.mk.inj (Except.ok.inj (accepted.symm.trans accepted'))

/-- Makes a query; the result is left out. -/
def perform (client : Client) : Call → Except Failure Unit × Client
  | .status request =>
    ((client.queryStatus request).1.map fun _ => (), (client.queryStatus request).2)
  | .time request => ((client.queryTime request).1.map fun _ => (), (client.queryTime request).2)

/-- A query that is refused leaves the client as it was. -/
theorem perform_of_refused {client : Client} {call : Call} {failure : Failure}
    (refusal : client.accept call.request = .error failure) :
    client.perform call = (.error failure, client) := by
  cases call with
  | status request =>
    have unasked : client.queryStatus request = (.error failure, client) := by
      simp only [queryStatus, show client.accept request = _ from refusal]
    rw [perform, unasked]
    rfl
  | time request =>
    have unasked : client.queryTime request = (.error failure, client) := by
      simp only [queryTime, show client.accept request = _ from refusal]
    rw [perform, unasked]
    rfl

/-- Makes queries one after the other, also when some of them fail. -/
def performAll (client : Client) : List Call → List (Except Failure Unit) × Client
  | [] => ([], client)
  | call :: calls =>
    let first := client.perform call
    let others := first.2.performAll calls
    (first.1 :: others.1, others.2)

theorem performAll_append (client : Client) (calls others : List Call) :
    (client.performAll (calls ++ others)).2 =
      ((client.performAll calls).2.performAll others).2 := by
  induction calls generalizing client with
  | nil => rfl
  | cons call calls ih => exact ih (client.perform call).2

@[simp] theorem channel_fail (client : Client) (kind : QueryKind) (failure : Failure) :
    (client.fail kind failure).channel = client.channel := by
  unfold fail
  split
  · rfl
  · rfl

/-- The client that has taken the next number. -/
def numbered (client : Client) : Client :=
  { client with channel := client.channel.nextSequence.2 }

/-- Numbers have 16 bits. -/
theorem sequence_numbered (client : Client) :
    0 ≤ client.numbered.channel.session.sequence ∧
      client.numbered.channel.session.sequence < 65536 :=
  ⟨Int.emod_nonneg _ (by decide), Int.emod_lt_of_pos _ (by decide)⟩

/-- What a fetch does: it takes a number and carries out the exchange for a request with it. -/
theorem fetchVariables_eq (client : Client) (budget : Budget) (destination : Endpoint)
    (association : Int) :
    ∃ payload,
      ControlPacket.request 2 association client.numbered.channel.session.sequence =
        .ok payload ∧
      client.fetchVariables budget destination association =
        (((variablesExchange budget destination association
            client.numbered.channel.session.sequence payload).run client.numbered.channel).outcome,
          client.numbered.after ((variablesExchange budget destination association
            client.numbered.channel.session.sequence payload).run client.numbered.channel)) := by
  obtain ⟨payload, written, -⟩ :=
    ControlPacket.request_ok association client.channel.nextSequence.1
  refine ⟨payload, written, ?_⟩
  simp only [fetchVariables, written]
  rfl

/-- The ways of a follow-up. -/
inductive FollowUp (client : Client) (budget : Budget) (destination : Endpoint) (text : String) :
    Except Failure String × Client → Prop
  | unreadable (peer : VariableList.peerAssociation? text = none) :
      FollowUp client budget destination text (.error .badValue, client)
  | needless (peer : VariableList.peerAssociation? text = some none) :
      FollowUp client budget destination text (.ok "", client)
  | answered {association : Nat} {answer : Answer ControlPacket} {next : Client}
      (peer : VariableList.peerAssociation? text = some (some association))
      (fetched : client.fetchVariables budget destination association = (.ok answer, next)) :
      FollowUp client budget destination text (.ok answer.packet.text, next)
  | unanswered {association : Nat} {error : QueryError} {next : Client}
      (peer : VariableList.peerAssociation? text = some (some association))
      (fetched : client.fetchVariables budget destination association =
        (.error (.reported error), next)) :
      FollowUp client budget destination text
        (.ok "", next.observe (.peerFailed (.peer association error)))
  | failed {association : Nat} {failure : Failure} {next : Client}
      (peer : VariableList.peerAssociation? text = some (some association))
      (fetched : client.fetchVariables budget destination association = (.error failure, next))
      (unreported : ∀ error, failure ≠ .reported error) :
      FollowUp client budget destination text (.error failure, next)

theorem followUp_fetchPeer (client : Client) (budget : Budget) (destination : Endpoint)
    (text : String) :
    client.FollowUp budget destination text (client.fetchPeer budget destination text) := by
  rw [fetchPeer]
  cases peer : VariableList.peerAssociation? text with
  | none => exact .unreadable peer
  | some named =>
    cases named with
    | none => exact .needless peer
    | some association =>
      cases fetched : client.fetchVariables budget destination association with
      | mk result next =>
        simp only [fetched]
        cases result with
        | ok answer => exact .answered peer fetched
        | error failure =>
          split
          · rename_i h
            simp at h
          · rename_i h
            simp only [Prod.mk.injEq, Except.error.injEq] at h
            obtain ⟨rfl, rfl⟩ := h
            exact .unanswered peer fetched
          · rename_i other h
            simp only [Prod.mk.injEq, Except.error.injEq] at h
            obtain ⟨rfl, rfl⟩ := h
            exact .failed peer fetched other

/-- The ways of a status query. -/
inductive StatusCourse (client : Client) (request : Request) :
    Except Failure (Mapping String String) × Client → Prop
  | refused {failure : Failure} (refusal : client.accept request = .error failure) :
      StatusCourse client request (.error failure, client)
  | unanswered {budget : Budget} {destination : Endpoint} {failure : Failure} {next : Client}
      (accepted : client.accept request = .ok (budget, destination))
      (fetched : (client.start .status budget destination).fetchVariables budget destination 0 =
        (.error failure, next)) :
      StatusCourse client request (.error failure, next.fail .status failure)
  | unfinished {budget : Budget} {destination : Endpoint} {answer : Answer ControlPacket}
      {failure : Failure} {next last : Client}
      (accepted : client.accept request = .ok (budget, destination))
      (fetched : (client.start .status budget destination).fetchVariables budget destination 0 =
        (.ok answer, next))
      (followed : next.fetchPeer budget destination answer.packet.text = (.error failure, last)) :
      StatusCourse client request (.error failure, last)
  | answered {budget : Budget} {destination : Endpoint} {answer : Answer ControlPacket}
      {peerText : String} {next last : Client}
      (accepted : client.accept request = .ok (budget, destination))
      (fetched : (client.start .status budget destination).fetchVariables budget destination 0 =
        (.ok answer, next))
      (followed : next.fetchPeer budget destination answer.packet.text = (.ok peerText, last)) :
      StatusCourse client request
        (.ok (statusVariables answer.packet.text peerText),
          last.observe (.answered QueryKind.status.name answer.roundTrip
            (textMembers (statusVariables answer.packet.text peerText))))

theorem statusCourse_queryStatus (client : Client) (request : Request) :
    client.StatusCourse request (client.queryStatus request) := by
  rw [queryStatus]
  cases accepted : client.accept request with
  | error failure => exact .refused accepted
  | ok accepts =>
    obtain ⟨budget, destination⟩ := accepts
    cases fetched :
        (client.start .status budget destination).fetchVariables budget destination 0 with
    | mk result next =>
      simp only [fetched]
      cases result with
      | error failure => exact .unanswered accepted fetched
      | ok answer =>
        simp only
        cases followed : next.fetchPeer budget destination answer.packet.text with
        | mk result last =>
          cases result with
          | error failure => exact .unfinished accepted fetched followed
          | ok peerText => exact .answered accepted fetched followed

/-- The client after the exchange of a time query. -/
def afterAsking (client : Client) (budget : Budget) (destination : Endpoint) : Client :=
  (client.start .time budget destination).after
    ((timeExchange budget destination).run client.channel)

/-- The ways of a time query. -/
inductive TimeCourse (client : Client) (request : Request) :
    Except Failure TimeResult × Client → Prop
  | refused {failure : Failure} (refusal : client.accept request = .error failure) :
      TimeCourse client request (.error failure, client)
  | unanswered {budget : Budget} {destination : Endpoint} {failure : Failure}
      (accepted : client.accept request = .ok (budget, destination))
      (outcome : ((timeExchange budget destination).run client.channel).outcome =
        .error failure) :
      TimeCourse client request
        (.error failure, (client.afterAsking budget destination).fail .time failure)
  | uncomputed {budget : Budget} {destination : Endpoint} {answer : Answer ClientPacket}
      {failure : Failure} (accepted : client.accept request = .ok (budget, destination))
      (outcome : ((timeExchange budget destination).run client.channel).outcome = .ok answer)
      (computed : TimeResult.ofAnswer answer.packet (answer.sentAt + Wire.epochOffset)
        (answer.receivedAt + Wire.epochOffset) = .error failure) :
      TimeCourse client request (.error failure, client.afterAsking budget destination)
  | answered {budget : Budget} {destination : Endpoint} {answer : Answer ClientPacket}
      {result : TimeResult} (accepted : client.accept request = .ok (budget, destination))
      (outcome : ((timeExchange budget destination).run client.channel).outcome = .ok answer)
      (computed : TimeResult.ofAnswer answer.packet (answer.sentAt + Wire.epochOffset)
        (answer.receivedAt + Wire.epochOffset) = .ok result) :
      TimeCourse client request
        (.ok result, (client.afterAsking budget destination).observe
          (.answered QueryKind.time.name answer.roundTrip result.entries))

theorem timeCourse_queryTime (client : Client) (request : Request) :
    client.TimeCourse request (client.queryTime request) := by
  rw [queryTime]
  cases accepted : client.accept request with
  | error failure => exact .refused accepted
  | ok accepts =>
    obtain ⟨budget, destination⟩ := accepts
    have same : (client.start .time budget destination).channel = client.channel := rfl
    simp only [same]
    cases outcome : ((timeExchange budget destination).run client.channel).outcome with
    | error failure => exact .unanswered accepted outcome
    | ok answer =>
      simp only
      cases computed : TimeResult.ofAnswer answer.packet (answer.sentAt + Wire.epochOffset)
          (answer.receivedAt + Wire.epochOffset) with
      | error failure => exact .uncomputed accepted outcome computed
      | ok result => exact .answered accepted outcome computed

/-- A relation between clients that everything in a query brings about. -/
structure Carried (R : Client → Client → Prop) : Prop where
  refl : ∀ client, R client client
  trans : ∀ {first second third}, R first second → R second third → R first third
  observe : ∀ client event, R client (client.observe event)
  fetch : ∀ client budget destination association,
    R client (client.fetchVariables budget destination association).2
  ask : ∀ client budget destination,
    R client (client.after ((timeExchange budget destination).run client.channel))

namespace Carried

variable {R : Client → Client → Prop}

theorem fetched (carried : Carried R) {client next : Client} {budget : Budget}
    {destination : Endpoint} {association : Int} {result : Except Failure (Answer ControlPacket)}
    (h : client.fetchVariables budget destination association = (result, next)) :
    R client next := by
  have := carried.fetch client budget destination association
  rwa [h] at this

theorem fail (carried : Carried R) (client : Client) (kind : QueryKind) (failure : Failure) :
    R client (client.fail kind failure) := by
  unfold Client.fail
  split
  · exact carried.observe client _
  · exact carried.refl client

theorem fetchPeer (carried : Carried R) (client : Client) (budget : Budget)
    (destination : Endpoint) (text : String) :
    R client (client.fetchPeer budget destination text).2 := by
  have followUp := followUp_fetchPeer client budget destination text
  generalize client.fetchPeer budget destination text = result at followUp ⊢
  cases followUp with
  | unreadable => exact carried.refl client
  | needless => exact carried.refl client
  | answered peer fetched => exact carried.fetched fetched
  | unanswered peer fetched => exact carried.trans (carried.fetched fetched) (carried.observe _ _)
  | failed peer fetched => exact carried.fetched fetched

theorem followed (carried : Carried R) {client next : Client} {budget : Budget}
    {destination : Endpoint} {text : String} {result : Except Failure String}
    (h : client.fetchPeer budget destination text = (result, next)) : R client next := by
  have := carried.fetchPeer client budget destination text
  rwa [h] at this

theorem queryStatus (carried : Carried R) (client : Client) (request : Request) :
    R client (client.queryStatus request).2 := by
  have course := statusCourse_queryStatus client request
  generalize client.queryStatus request = result at course ⊢
  cases course with
  | refused => exact carried.refl client
  | unanswered accepted fetched =>
    apply carried.trans (carried.observe client _)
    exact carried.trans (carried.fetched fetched) (carried.fail _ _ _)
  | unfinished accepted fetched followed =>
    apply carried.trans (carried.observe client _)
    exact carried.trans (carried.fetched fetched) (carried.followed followed)
  | answered accepted fetched followed =>
    apply carried.trans (carried.observe client _)
    apply carried.trans (carried.fetched fetched)
    exact carried.trans (carried.followed followed) (carried.observe _ _)

theorem afterAsking (carried : Carried R) (client : Client) (budget : Budget)
    (destination : Endpoint) : R client (client.afterAsking budget destination) :=
  carried.trans (carried.observe client _)
    (carried.ask (client.start .time budget destination) budget destination)

theorem queryTime (carried : Carried R) (client : Client) (request : Request) :
    R client (client.queryTime request).2 := by
  have course := timeCourse_queryTime client request
  generalize client.queryTime request = result at course ⊢
  cases course with
  | refused => exact carried.refl client
  | unanswered => exact carried.trans (carried.afterAsking client _ _) (carried.fail _ _ _)
  | uncomputed => exact carried.afterAsking client _ _
  | answered => exact carried.trans (carried.afterAsking client _ _) (carried.observe _ _)

theorem perform (carried : Carried R) (client : Client) (call : Call) :
    R client (client.perform call).2 := by
  cases call with
  | status request => exact carried.queryStatus client request
  | time request => exact carried.queryTime client request

theorem performAll (carried : Carried R) (client : Client) (calls : List Call) :
    R client (client.performAll calls).2 := by
  induction calls generalizing client with
  | nil => exact carried.refl client
  | cons call calls ih => exact carried.trans (carried.perform client call) (ih _)

end Carried

end Client

end NtpQuery
