import NtpQuery.Proofs.Client.Clocks
import NtpQuery.Proofs.Client.Query
import NtpQuery.Proofs.EventLog.Recording
import NtpQuery.Proofs.Exchange.Course
import NtpQuery.Proofs.VariableList
import NtpQuery.Proofs.Wire.Control

/-!
# Every query ends with an answer or without a response

Datagrams come from anyone and may hold anything. On a network where nothing is
refused they cannot make a query fail: it ends with a result or with the report
that nobody responded. Whatever an exchange accepts was decoded, and what was
decoded is within the limits of everything that is done with it, from the
digits of a peer to the sums of timestamps.

On a quiet network the clock only goes on, so that a time within a query lies
between its start and its end.
-/

namespace NtpQuery

namespace EventLog

/-- An open log that buffers events. -/
def Ready (log : EventLog) : Prop :=
  log.closed = false ∧ log.bufferSize.isSome

/-- A log that is given a record stays open. -/
theorem Ready.add {log : EventLog} (ready : log.Ready) (record : Json) :
    (log.add record).2.Ready := by
  refine ⟨(log.closed_add record).trans ready.1, ?_⟩
  rw [(log.extends_add record).bufferSize]
  exact ready.2

end EventLog

namespace Record

def Ready (record : Record) : Prop :=
  ∀ log, record.log = some log → log.Ready

variable {record : Record}

theorem Ready.observe (ready : record.Ready) (event : TimedEvent) :
    (record.observe event).Ready := by
  intro log h
  obtain ⟨before, hb, rfl⟩ := Option.map_eq_some_iff.mp h
  exact (ready before hb).add _

theorem Ready.observeAll (ready : record.Ready) (events : List TimedEvent) :
    (record.observeAll events).Ready := by
  induction events generalizing record with
  | nil => exact ready
  | cons event events ih => exact ih (ready.observe event)

end Record

/-- A request that can be carried out: its numbers are in range and its host has an address. -/
structure Request.Sound (request : Request) (net : Network) : Prop where
  port : 1 ≤ request.port ∧ request.port ≤ 65535
  host : ∃ address others, net.lookup request.host = some (address :: others)
  retries : ∀ retries, request.retries = some retries → 0 ≤ retries
  timeout : ∀ timeoutMs, request.timeoutMs = some timeoutMs →
    0 < timeoutMs ∧ timeoutMs < Network.exactWaitMs

theorem Request.Sound.steady {request : Request} {channel after : Channel}
    (sound : request.Sound channel.network) (steady : channel.Steady after) :
    request.Sound after.network := by
  refine ⟨sound.port, ?_, sound.retries, sound.timeout⟩
  obtain ⟨address, others, found⟩ := sound.host
  exact ⟨address, others, by rw [Network.lookup, steady.hosts, ← found, Network.lookup]⟩

namespace Client

/-- A client on a network where nothing is refused, with an open log if it has one. -/
structure Healthy (client : Client) : Prop where
  quiet : client.network.Quiet
  log : client.record.Ready
  defaults : client.defaults.timeoutMs < Network.exactWaitMs

/-- A healthy client after something that it did. -/
structure Onward (client after : Client) : Prop where
  steady : client.channel.Steady after.channel
  log : client.record.Ready → after.record.Ready
  defaults : after.defaults = client.defaults

variable {client next : Client}

theorem Onward.healthy (h : client.Onward next) (healthy : client.Healthy) : next.Healthy :=
  ⟨h.steady.quiet healthy.quiet, h.log healthy.log, by rw [h.defaults]; exact healthy.defaults⟩

theorem onward_after {α : Type} (client : Client) (exchange : Exchange α) :
    client.Onward (client.after (exchange.run client.channel)) :=
  ⟨(Exchange.Carried.steady exchange).run client.channel, fun ready => ready.observeAll _, rfl⟩

theorem onward_carried : Carried Onward where
  refl client := ⟨.refl _, id, rfl⟩
  trans h h' :=
    ⟨h.steady.trans h'.steady, fun ready => h'.log (h.log ready), h'.defaults.trans h.defaults⟩
  observe client event := ⟨.refl _, fun ready => ready.observe _, rfl⟩
  fetch client budget destination association := by
    obtain ⟨payload, -, run⟩ := client.fetchVariables_eq budget destination association
    obtain ⟨steady, log, defaults⟩ := onward_after client.numbered
      (variablesExchange budget destination association
        client.numbered.channel.session.sequence payload)
    have numbered : client.channel.Steady client.numbered.channel :=
      .of_unmoved rfl rfl id rfl rfl
    rw [run]
    exact ⟨numbered.trans steady, log, defaults⟩
  ask client budget destination := onward_after client _

theorem override_ok {request : Request} {net : Network} (healthy : client.Healthy)
    (sound : request.Sound net) :
    ∃ budget, client.defaults.override request.retries request.timeoutMs = .ok budget ∧
      budget.timeoutMs < Network.exactWaitMs := by
  obtain ⟨budget, made⟩ := client.defaults.override_of_valid sound.retries
    fun n given => (sound.timeout n given).1
  refine ⟨budget, made, ?_⟩
  have short := Budget.override_timeoutMs (p := (· < Network.exactWaitMs)) made
    (Int.ofNat_lt.mpr healthy.defaults) fun n given => (sound.timeout n given).2
  exact Int.ofNat_lt.mp short

theorem accept_ok {request : Request} (healthy : client.Healthy)
    (sound : request.Sound client.network) :
    ∃ budget destination, client.accept request = .ok (budget, destination) ∧
      budget.timeoutMs < Network.exactWaitMs := by
  obtain ⟨address, others, found⟩ := sound.host
  obtain ⟨budget, made, short⟩ := override_ok healthy sound
  exact ⟨budget, ⟨address, request.port⟩, accept_of_lookup made found sound.port, short⟩

/-- Reading variables ends with a text of limited length or without a response. -/
theorem fetchVariables_healthy (healthy : client.Healthy) {budget : Budget}
    (short : budget.timeoutMs < Network.exactWaitMs) (destination : Endpoint)
    (association : Int) :
    (client.fetchVariables budget destination association).1 = .error (.reported .unanswered) ∨
      ∃ answer, (client.fetchVariables budget destination association).1 = .ok answer ∧
        answer.packet.text.toList.length ≤ Wire.controlDataSize := by
  obtain ⟨payload, -, run⟩ := client.fetchVariables_eq budget destination association
  have quiet : client.numbered.channel.network.Quiet := healthy.quiet
  rw [run]
  have finished := Exchange.finished_quiet (variablesExchange budget destination association
    client.numbered.channel.session.sequence payload) _ quiet short
  cases finished with
  | inl answered =>
    obtain ⟨answer, answered⟩ := answered
    right
    refine ⟨answer, answered, ?_⟩
    obtain ⟨-, -, -, -, -, -, -, accepts, -, -⟩ := (Exchange.Carried.steady _).origin answered
    exact ControlPacket.length_text_le (variablesExchange_accept.mp accepts).1
  | inr unanswered =>
    left
    exact unanswered

/-- The follow-up never fails a query whose text is of limited length. -/
theorem fetchPeer_healthy (healthy : client.Healthy) {budget : Budget}
    (short : budget.timeoutMs < Network.exactWaitMs) (destination : Endpoint) {text : String}
    (limited : text.toList.length ≤ Wire.controlDataSize) :
    ∃ peerText, (client.fetchPeer budget destination text).1 = .ok peerText := by
  have followUp := followUp_fetchPeer client budget destination text
  generalize client.fetchPeer budget destination text = result at followUp ⊢
  cases followUp with
  | unreadable peer =>
    have known := VariableList.peerAssociation?_isSome
      (Nat.le_trans limited (show Wire.controlDataSize ≤ Text.Numeral.maxDigits by decide))
    simp [peer] at known
  | needless => exact ⟨_, rfl⟩
  | answered => exact ⟨_, rfl⟩
  | unanswered => exact ⟨_, rfl⟩
  | @failed association _ _ _ fetched unreported =>
    have outcome := fetchVariables_healthy healthy short destination association
    rw [fetched] at outcome
    cases outcome with
    | inl failed => exact absurd (Except.error.inj failed) (unreported _)
    | inr answered => simp at answered

theorem queryStatus_healthy (healthy : client.Healthy) {request : Request}
    (sound : request.Sound client.network) :
    (∃ known, (client.queryStatus request).1 = .ok known) ∨
      (client.queryStatus request).1 = .error (.reported .unanswered) := by
  obtain ⟨budget, destination, accepted, short⟩ := accept_ok healthy sound
  have started := onward_carried.observe client
    (.query QueryKind.status.name destination budget.retries budget.timeoutMs)
  have outcome := fetchVariables_healthy (started.healthy healthy) short destination 0
  have course := statusCourse_queryStatus client request
  generalize client.queryStatus request = result at course ⊢
  cases course with
  | refused refusal => simp [accepted] at refusal
  | unanswered accepted' fetched =>
    obtain ⟨rfl, rfl⟩ := Prod.mk.inj (Except.ok.inj (accepted.symm.trans accepted'))
    rw [start] at fetched
    rw [fetched] at outcome
    cases outcome with
    | inl unanswered =>
      obtain rfl := Except.error.inj unanswered
      exact .inr rfl
    | inr answered => simp at answered
  | unfinished accepted' fetched followed =>
    obtain ⟨rfl, rfl⟩ := Prod.mk.inj (Except.ok.inj (accepted.symm.trans accepted'))
    rw [start] at fetched
    have onward := onward_carried.fetched fetched
    rw [fetched] at outcome
    cases outcome with
    | inl unanswered => simp at unanswered
    | inr answered =>
      obtain ⟨answer, answered, limited⟩ := answered
      obtain rfl := Except.ok.inj answered
      have healthy' := onward.healthy (started.healthy healthy)
      obtain ⟨peerText, hp⟩ := fetchPeer_healthy healthy' short destination limited
      simp [followed] at hp
  | answered => exact .inl ⟨_, rfl⟩

theorem queryTime_healthy (healthy : client.Healthy) {request : Request}
    (sound : request.Sound client.network) (early : client.network.Reckoned)
    (late : (client.queryTime request).2.network.Reckoned) :
    (∃ result, (client.queryTime request).1 = .ok result) ∨
      (client.queryTime request).1 = .error (.reported .unanswered) := by
  obtain ⟨budget, destination, accepted, short⟩ := accept_ok healthy sound
  have course := timeCourse_queryTime client request
  generalize client.queryTime request = result at course late ⊢
  cases course with
  | refused refusal => simp [accepted] at refusal
  | unanswered accepted' outcome =>
    obtain ⟨rfl, rfl⟩ := Prod.mk.inj (Except.ok.inj (accepted.symm.trans accepted'))
    have finished := Exchange.finished_quiet (timeExchange budget destination) client.channel
      healthy.quiet short
    cases finished with
    | inl answered => simp [outcome] at answered
    | inr unanswered =>
      obtain rfl := Except.error.inj (outcome.symm.trans unanswered)
      exact .inr rfl
  | uncomputed accepted' outcome computed =>
    have clocked := early.clocked healthy.quiet (onward_after client _).steady late
    obtain ⟨result, made⟩ := ofAnswer_clocked clocked outcome
    simp [computed] at made
  | answered => exact .inl ⟨_, rfl⟩

theorem perform_healthy (healthy : client.Healthy) {call : Call}
    (sound : call.request.Sound client.network) (early : client.network.Reckoned)
    (late : (client.perform call).2.network.Reckoned) :
    (client.perform call).1 = .ok () ∨
      (client.perform call).1 = .error (.reported .unanswered) := by
  cases call with
  | status request =>
    have outcome := queryStatus_healthy healthy (show request.Sound _ from sound)
    cases outcome with
    | inl answered =>
      obtain ⟨known, answered⟩ := answered
      left
      simp [perform, answered, Except.map]
    | inr unanswered =>
      right
      simp [perform, unanswered, Except.map]
  | time request =>
    have outcome := queryTime_healthy healthy (show request.Sound _ from sound) early late
    cases outcome with
    | inl answered =>
      obtain ⟨result, answered⟩ := answered
      left
      simp [perform, answered, Except.map]
    | inr unanswered =>
      right
      simp [perform, unanswered, Except.map]

end Client

end NtpQuery
