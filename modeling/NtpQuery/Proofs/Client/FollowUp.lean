import NtpQuery.Proofs.Client.Account
import NtpQuery.Proofs.Client.Answering
import NtpQuery.Proofs.Exchange.Recurrence

/-!
# The follow-up of a status query does no harm

When a server has told its variables, its part of the result is settled. The
follow-up may be answered with anything, or fail in any way that is reported:
its variables have keys of their own and go behind, and a failure costs one
count of failed follow-ups and nothing else.

Whatever the network holds for the follow-up cannot reach back either. On two
networks that are parallel until the server's response has come, the server's
part is the same.
-/

namespace NtpQuery

namespace Client

/-- Clients that differ in their channels, and cannot be told apart until the network of the first
one has become the final one. -/
structure Parallel (horizon : Int) (final : Network) (client other : Client) : Prop where
  channel : client.channel.Parallel horizon final other.channel
  same : other = { client with channel := other.channel }

variable {horizon : Int} {final : Network} {client other next : Client} {budget : Budget}
  {destination : Endpoint}

namespace Parallel

theorem accept (parallel : client.Parallel horizon final other) (request : Request) :
    other.accept request = client.accept request := by
  have defaults : other.defaults = client.defaults := by rw [parallel.same]
  have hosts : other.network.hosts = client.network.hosts :=
    (congrArg Network.hosts parallel.channel.network.elsewhere).trans rfl
  have resolved : other.network.resolve request.host request.port =
      client.network.resolve request.host request.port := by
    rw [Network.resolve, Network.resolve, Network.lookup, Network.lookup, hosts]
  rw [Client.accept, Client.accept, defaults, resolved]

theorem start (parallel : client.Parallel horizon final other) (kind : QueryKind) (budget : Budget)
    (destination : Endpoint) :
    (client.start kind budget destination).Parallel horizon final
      (other.start kind budget destination) := by
  refine ⟨parallel.channel, ?_⟩
  have now : other.now = client.now := parallel.channel.clock
  rw [Client.start, Client.start, observe, observe, now, parallel.same]

theorem numbered (parallel : client.Parallel horizon final other) :
    client.numbered.channel.Parallel horizon final other.numbered.channel ∧
      other.numbered.channel.session.sequence = client.numbered.channel.session.sequence := by
  obtain ⟨session, socket, network⟩ := parallel.channel
  refine ⟨⟨?_, socket, network⟩, ?_⟩
  · simp only [Client.numbered, Channel.nextSequence]
    rw [session]
  · simp only [Client.numbered, Channel.nextSequence]
    rw [session]

/-- Variables that are fetched here are fetched there. -/
theorem fetchVariables {association : Int} {answer : Answer ControlPacket}
    (parallel : client.Parallel horizon next.network other)
    (fetched : client.fetchVariables budget destination association = (.ok answer, next)) :
    ∃ next', other.fetchVariables budget destination association = (.ok answer, next') ∧
      next.Parallel horizon next.network next' := by
  obtain ⟨payload, written, run⟩ := client.fetchVariables_eq budget destination association
  obtain ⟨payload', written', run'⟩ := other.fetchVariables_eq budget destination association
  obtain ⟨numbered, sequence⟩ := parallel.numbered
  rw [sequence] at written' run'
  obtain rfl := Except.ok.inj (written.symm.trans written')
  generalize variablesExchange budget destination association
    client.numbered.channel.session.sequence payload = exchange at run run'
  rw [fetched, Prod.mk.injEq] at run
  obtain ⟨outcome, rfl⟩ := run
  obtain ⟨other', same, parallel'⟩ :=
    (Exchange.recurs_run outcome.symm).parallel (.refl _) numbered
  rw [same] at run'
  refine ⟨other.numbered.after { exchange.run client.numbered.channel with channel := other' },
    by rw [run', outcome], parallel', ?_⟩
  rw [Client.numbered, Client.numbered, parallel.same]
  rfl

end Parallel

/-- The statistics of the status queries of a client. -/
def statusStats (client : Client) : KindStats :=
  client.record.metrics.kind QueryKind.status.name

/-- Between two clients no status query has come to its end, and so many follow-ups have failed. -/
structure Underway (client next : Client) (failures : Nat) : Prop where
  window : next.record.metrics.window = client.record.metrics.window
  succeeded : next.statusStats.succeeded = client.statusStats.succeeded
  roundTripsRev : next.statusStats.roundTripsRev = client.statusStats.roundTripsRev
  peerFailures : next.statusStats.peerFailures = client.statusStats.peerFailures + failures

namespace Underway

theorem trans {middle : Client} {failures failures' : Nat} (h : client.Underway middle failures)
    (h' : middle.Underway next failures') : client.Underway next (failures + failures') := by
  refine ⟨h'.window.trans h.window, h'.succeeded.trans h.succeeded,
    h'.roundTripsRev.trans h.roundTripsRev, ?_⟩
  rw [h'.peerFailures, h.peerFailures, Nat.add_assoc]

theorem observe (client : Client) {event : Event} (own : event.kindName = QueryKind.status.name)
    (unended : event.counter? ≠ some .succeeded) :
    client.Underway (client.observe event)
      (if event.counter? = some .peerFailures then 1 else 0) := by
  have stats : (client.observe event).statusStats =
      client.statusStats.observe client.record.metrics.window event := client.kind_observe own
  refine ⟨Metrics.window_observe _ _, ?_, ?_, ?_⟩
  all_goals
    rw [stats]
    cases event with
    | answered => simp [Event.counter?] at unended
    | failed kind error =>
      cases silent : error.isNoResponse <;> simp [KindStats.observe, Event.counter?, silent]
    | _ => simp [KindStats.observe, Event.counter?]

theorem fetched {association : Int} {result : Except Failure (Answer ControlPacket)}
    (fetched : client.fetchVariables budget destination association = (result, next)) :
    client.Underway next 0 := by
  obtain ⟨payload, -, run⟩ := client.fetchVariables_eq budget destination association
  rw [fetched, Prod.mk.injEq] at run
  obtain ⟨-, rfl⟩ := run
  have own := (Exchange.settled_run (variablesExchange budget destination association
    client.numbered.channel.session.sequence payload) client.numbered.channel).own
  generalize (variablesExchange budget destination association
    client.numbered.channel.session.sequence payload).run client.numbered.channel = run at own
  obtain ⟨window, kinds⟩ := @Record.kind_observeAll client.record _ _ own
  have stats : (client.numbered.after run).statusStats =
      client.statusStats.add (.ofEvents run.trail.events) := (kinds _).trans (if_pos rfl)
  refine ⟨window, ?_, ?_, ?_⟩
  all_goals
    rw [stats]
    rfl

end Underway

/-- No socket refuses to be closed, and all times that a query may wait can be told. -/
structure Unhindered (client : Client) (budget : Budget) : Prop where
  closing : refused client.network.faults.close = 0
  told : Network.Tellable (budget.attemptMs + setback client.network.faults.wait)

/-- A follow-up that nothing hinders does not fail the query. -/
theorem Unhindered.followed (unhindered : client.Unhindered budget) (destination : Endpoint)
    {text : String} (limited : text.toList.length ≤ Wire.controlDataSize) :
    ∃ peerText last, client.fetchPeer budget destination text = (.ok peerText, last) := by
  cases followed : client.fetchPeer budget destination text with
  | mk result last =>
    cases result with
    | ok peerText => exact ⟨peerText, last, rfl⟩
    | error failure =>
      obtain ⟨closing, told⟩ := unhindered
      obtain ⟨-, -, -, -, unreported⟩ := ran_fetchPeer followed
      have cause := cause_of_unfollowed limited followed
      cases cause with
      | unanswered => exact absurd rfl (unreported _)
      | refused => exact absurd rfl (unreported _)
      | unclosed spent close => omega
      | untold unspent untellable => exact absurd told untellable

/-- The variables of the peer go behind those of the server, whatever their names. -/
theorem statusVariables_eq (systemText peerText : String) :
    statusVariables systemText peerText =
      VariableList.read systemText "sys" [] ++ VariableList.read peerText "peer" [] := by
  rw [statusVariables]
  split
  · rename_i empty
    rw [String.isEmpty_iff.mp empty]
    exact (List.append_nil _).symm
  · refine VariableList.read_append (by decide) ?_ peerText
    intro name mem
    exact VariableList.not_inGroup_of_ne (by decide) (by decide) (by decide)
      (VariableList.inGroup_of_mem_read (by decide) mem)

end Client

end NtpQuery
