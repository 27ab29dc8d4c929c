import NtpQuery.Proofs.Binary64.Order
import NtpQuery.Proofs.Client.Account
import NtpQuery.Proofs.Client.Answering

/-!
# The books of a client balance

Queries of both kinds follow each other on one client. As long as each returns
or reports an error, the counters of each kind say what happened: so many
queries were accepted, so many of them returned, and the others ended without a
response or with another error. Every datagram that came in is accounted for.
It was turned away, it was the answer of a query, or it was the answer to a
follow-up.

The account of a run is the sum of the accounts of its queries. Which datagrams
came in, and what was refused, plays no part in it.
-/

namespace NtpQuery

/-- The value at the end of a path of member names. -/
def Json.at? : (path : List String) → Json → Option Json
  | [], j => some j
  | name :: path, j => (j.member? name).bind (Json.at? path)

namespace KindStats

/-- A share in percent is between 0 and 100. -/
theorem within_percentage {part whole : Nat} (positive : 0 < whole) (le : part ≤ whole) :
    (percentage part whole).Within 100 := by
  have share : (Binary64.nearest false part whole).Within 1 :=
    Binary64.within_nearest positive (by rwa [Nat.mul_one]) (by decide)
  have hundred : (Binary64.ofInt 100).Within 100 :=
    Binary64.within_nearest Nat.one_pos (by decide) (by decide)
  exact Binary64.within_roundTo (Binary64.within_mul share hundred (by decide)) 1 (by decide)

theorem within_successRate {stats : KindStats} (le : stats.succeeded ≤ stats.queries) :
    stats.successRate.Within 100 := by
  rw [successRate]
  split
  · exact Binary64.within_zero 100
  · exact within_percentage (by omega) le

/-- A record shows the counters and the success rate. -/
theorem object_record {stats : KindStats} {kind : String} {shown : Json}
    (h : stats.record kind = .ok shown) :
    ∃ mean median p95, shown = .object
      [("kind", .text kind),
       ("queries", .whole stats.queries),
       ("succeeded", .whole stats.succeeded),
       ("no_response", .whole stats.noResponse),
       ("transport_errors", .whole stats.transportErrors),
       ("peer_failures", .whole stats.peerFailures),
       ("sent", .whole stats.sent),
       ("received", .whole stats.received),
       ("discarded", countsRecord stats.discarded),
       ("success_rate", .real stats.successRate),
       ("avg_rtt_ms", mean),
       ("median_rtt_ms", median),
       ("p95_rtt_ms", p95)] := by
  simp only [record, bind, Except.bind] at h
  split at h
  · simp at h
  · split at h
    · simp at h
    · split at h
      · simp at h
      · exact ⟨_, _, _, (Except.ok.inj h).symm⟩

theorem successRate_record {stats : KindStats} {kind : String} {shown : Json}
    (h : stats.record kind = .ok shown) :
    shown.member? "success_rate" = some (.real stats.successRate) := by
  obtain ⟨mean, median, p95, rfl⟩ := object_record h
  rfl

end KindStats

namespace Metrics

variable {metrics : Metrics}

/-- Metrics with both kinds of queries and no other. -/
def BothKinds (metrics : Metrics) : Prop :=
  metrics.kinds.keys = ["status", "time"]

theorem BothKinds.eq (both : metrics.BothKinds) :
    metrics.kinds = [("status", metrics.kind "status"), ("time", metrics.kind "time")] := by
  rw [BothKinds] at both
  match kinds : metrics.kinds with
  | [] => simp [kinds] at both
  | [(k, s)] => simp [kinds] at both
  | [(k, s), (k', t)] =>
    simp only [kinds, Mapping.keys_cons, Mapping.keys_nil, List.cons.injEq, and_true] at both
    obtain ⟨rfl, rfl⟩ := both
    simp [kind, kinds, Mapping.get?_cons]
  | _ :: _ :: _ :: _ => simp [kinds, Mapping.keys] at both

theorem BothKinds.total (both : metrics.BothKinds) (counter : KindStats → Nat) :
    metrics.total counter =
      counter (metrics.kind "status") + counter (metrics.kind "time") := by
  rw [Metrics.total, both.eq]
  rfl

theorem keys_updateKind {name : String} (known : name ∈ metrics.kinds.keys)
    (f : KindStats → KindStats) : (metrics.updateKind name f).kinds.keys = metrics.kinds.keys := by
  rw [updateKind, Mapping.keys_update, if_pos known]

theorem keys_observe {event : TimedEvent} (known : event.event.kindName ∈ metrics.kinds.keys) :
    (metrics.observe event).kinds.keys = metrics.kinds.keys := by
  obtain ⟨time, event⟩ := event
  cases event with
  | query => exact keys_updateKind known _
  | sent => exact keys_updateKind known _
  | received => exact keys_updateKind known _
  | discarded => exact keys_updateKind known _
  | attemptTimeout => rfl
  | exhausted => rfl
  | failed kind error =>
    simp only [observe, recordFailure, addFailure]
    exact keys_updateKind known _
  | peerFailed error =>
    simp only [observe, recordPeerFailure, addFailure]
    exact keys_updateKind known _
  | answered => exact keys_updateKind known _

/-- Events of the two kinds add no other. -/
theorem BothKinds.observeAll {record : Record} (both : record.metrics.BothKinds)
    {events : List TimedEvent}
    (own : ∀ event ∈ events, ∃ kind : QueryKind, event.event.kindName = kind.name) :
    (record.observeAll events).metrics.BothKinds := by
  induction events generalizing record with
  | nil => exact both
  | cons event events ih =>
    apply ih _ fun other mem => own other (List.mem_cons_of_mem _ mem)
    obtain ⟨kind, named⟩ := own event List.mem_cons_self
    have known : event.event.kindName ∈ record.metrics.kinds.keys := by
      rw [named, both]
      cases kind <;> decide
    exact (keys_observe known).trans both

theorem totalRate_snapshot {now : Int} {shown : Json} (h : metrics.snapshot now = .ok shown) :
    shown.at? ["total", "success_rate"] =
      some (.real (KindStats.percentage (metrics.total (·.succeeded))
        (max 1 (metrics.total (·.queries))))) := by
  rw [Metrics.snapshot] at h
  cases records : kindRecords metrics.kinds with
  | error failure => simp [records, Except.map] at h
  | ok kinds =>
    simp only [records, Except.map] at h
    rw [← Except.ok.inj h]
    rfl

/-- A snapshot shows the record of each kind. -/
theorem BothKinds.byKind_snapshot (both : metrics.BothKinds) {now : Int} {shown : Json}
    (h : metrics.snapshot now = .ok shown) :
    ∃ status time, (metrics.kind "status").record "status" = .ok status ∧
      (metrics.kind "time").record "time" = .ok time ∧
      shown.member? "by_kind" = some (.object [("status", status), ("time", time)]) := by
  rw [Metrics.snapshot, both.eq] at h
  simp only [kindRecords] at h
  cases status : (metrics.kind "status").record "status" with
  | error failure => simp [status, Except.map] at h
  | ok record =>
    cases time : (metrics.kind "time").record "time" with
    | error failure => simp [status, time, Except.map] at h
    | ok record' =>
      simp only [status, time, Except.map] at h
      rw [← Except.ok.inj h]
      exact ⟨record, record', rfl, rfl, rfl⟩

/-- The success rates that a snapshot shows. -/
theorem BothKinds.snapshot (both : metrics.BothKinds) {now : Int} {shown : Json}
    (h : metrics.snapshot now = .ok shown) :
    shown.at? ["total", "success_rate"] =
        some (.real (KindStats.percentage (metrics.total (·.succeeded))
          (max 1 (metrics.total (·.queries))))) ∧
      ∀ kind : QueryKind, shown.at? ["by_kind", kind.name, "success_rate"] =
        some (.real (metrics.kind kind.name).successRate) := by
  obtain ⟨record, record', status, time, byKind⟩ := both.byKind_snapshot h
  refine ⟨totalRate_snapshot h, ?_⟩
  intro kind
  cases kind with
  | status =>
    show (shown.member? "by_kind").bind _ = _
    rw [byKind]
    show (record.member? "success_rate").bind some = _
    rw [KindStats.successRate_record status]
    rfl
  | time =>
    show (shown.member? "by_kind").bind _ = _
    rw [byKind]
    show (record'.member? "success_rate").bind some = _
    rw [KindStats.successRate_record time]
    rfl

end Metrics

namespace QueryKind

theorem name_inj {kind other : QueryKind} : kind.name = other.name ↔ kind = other := by
  cases kind <;> cases other <;> decide

end QueryKind

namespace Client

/-- How many of the queries of a kind were accepted. -/
def accepted (client : Client) (calls : List Call) (kind : QueryKind) : Nat :=
  (client.stages calls).countP fun (found, call) =>
    call.kind = kind && (found.accept call.request).toBool

/-- How many of the queries of a kind returned a result. -/
def returned (client : Client) (calls : List Call) (kind : QueryKind) : Nat :=
  (client.stages calls).countP fun (found, call) =>
    call.kind = kind && (found.perform call).1.toBool

/-- What the follow-ups came to. -/
def followUps (client : Client) (calls : List Call) :
    List (Except Failure (Answer ControlPacket)) :=
  (client.stages calls).filterMap fun (found, call) => found.followUp? call

/-- What the events of a run say of it. -/
structure Accounts (client : Client) (calls : List Call) (events : List TimedEvent) : Prop where
  record : (client.performAll calls).2.record = client.record.observeAll events
  own : ∀ event ∈ events, ∃ kind : QueryKind, event.event.kindName = kind.name
  flat : ∀ event ∈ events, event.event.IsFlat
  sent : (client.performAll calls).2.network.sentRev.length =
    client.network.sentRev.length + Counter.sent.count events
  queries : ∀ kind : QueryKind,
    Counter.queries.count (ofKind kind.name events) = client.accepted calls kind
  succeeded : ∀ kind : QueryKind,
    Counter.succeeded.count (ofKind kind.name events) = client.returned calls kind
  exhausted : exhaustions events =
    Counter.noResponse.count events + (client.followUps calls).countP isUnanswered
  settled : (∀ outcome ∈ (client.performAll calls).1, Regular outcome) → ∀ kind : QueryKind,
    Counter.queries.count (ofKind kind.name events) =
      Counter.succeeded.count (ofKind kind.name events) +
        Counter.noResponse.count (ofKind kind.name events) +
        Counter.transportErrors.count (ofKind kind.name events)
  received : (∀ outcome ∈ (client.performAll calls).1, Regular outcome) → ∀ kind : QueryKind,
    Counter.received.count (ofKind kind.name events) =
      Counter.discarded.count (ofKind kind.name events) +
        Counter.succeeded.count (ofKind kind.name events) +
        if kind = .status then (client.followUps calls).countP Except.toBool else 0
  followUps : (∀ outcome ∈ (client.performAll calls).1, Regular outcome) →
    (client.followUps calls).length = (client.followUps calls).countP Except.toBool +
      Counter.peerFailures.count (ofKind QueryKind.status.name events)
  told : setback client.network.faults.wait = 0 →
    ∀ event ∈ events, ∃ call ∈ calls, client.Tells call (client.performAll calls).2 event

section Cons

variable (client : Client) (call : Call) (calls : List Call)

theorem accepted_cons (kind : QueryKind) :
    client.accepted (call :: calls) kind = (client.perform call).2.accepted calls kind +
      if call.kind = kind then (client.accept call.request).toBool.toNat else 0 := by
  rw [accepted, stages, List.countP_cons]
  by_cases same : call.kind = kind
  · cases one : (client.accept call.request).toBool <;> simp [accepted, same, one]
  · simp [accepted, same]

theorem returned_cons (kind : QueryKind) :
    client.returned (call :: calls) kind = (client.perform call).2.returned calls kind +
      if call.kind = kind then (client.perform call).1.toBool.toNat else 0 := by
  rw [returned, stages, List.countP_cons]
  by_cases same : call.kind = kind
  · cases one : (client.perform call).1.toBool <;> simp [returned, same, one]
  · simp [returned, same]

theorem followUps_cons :
    client.followUps (call :: calls) =
      (client.followUp? call).toList ++ (client.perform call).2.followUps calls := by
  rw [followUps, stages, List.filterMap_cons]
  cases one : client.followUp? call <;> simp only [one] <;> rfl

theorem length_followUps_cons :
    (client.followUps (call :: calls)).length =
      (client.followUp? call).isSome.toNat +
        ((client.perform call).2.followUps calls).length := by
  rw [followUps_cons, List.length_append]
  cases client.followUp? call <;> rfl

theorem countP_followUps_cons (p : Except Failure (Answer ControlPacket) → Bool) :
    (client.followUps (call :: calls)).countP p =
      ((client.followUp? call).any p).toNat +
        ((client.perform call).2.followUps calls).countP p := by
  rw [followUps_cons, List.countP_append]
  cases client.followUp? call with
  | none => rfl
  | some asked => cases hp : p asked <;> simp [hp]

end Cons

theorem followUp?_of_time {client : Client} {call : Call} (time : call.kind = .time) :
    client.followUp? call = none := by
  cases call with
  | status request => simp [Call.kind] at time
  | time request => rfl

theorem accounts_nil (client : Client) : client.Accounts [] [] := by
  refine ⟨rfl, by simp, by simp, rfl, fun _ => rfl, fun _ => rfl, rfl, fun _ _ => rfl, ?_,
    fun _ => rfl, by simp⟩
  intro regular kind
  cases kind <;> rfl

/-- The account of a query goes before those of the ones that follow. -/
theorem accounts_cons {client : Client} {call : Call} {calls : List Call}
    {events later : List TimedEvent} (one : client.Account call events)
    (rest : (client.perform call).2.Accounts calls later) :
    client.Accounts (call :: calls) (events ++ later) := by
  have parts : ∀ (counter : Counter) (kind : QueryKind),
      counter.count (ofKind kind.name (events ++ later)) =
        (if call.kind = kind then counter.count events else 0) +
          counter.count (ofKind kind.name later) := by
    intro counter kind
    rw [ofKind_append, Counter.count_append, ofKind_of_own one.own]
    simp only [QueryKind.name_inj]
    by_cases same : call.kind = kind
    · rw [if_pos same, if_pos same]
    · rw [if_neg same, if_neg same, Counter.count_nil]
  have first : ∀ {outcome}, (∀ other ∈ (client.performAll (call :: calls)).1, Regular other) →
      outcome = (client.perform call).1 → Regular outcome := by
    rintro _ regular rfl
    exact regular _ List.mem_cons_self
  have others : (∀ other ∈ (client.performAll (call :: calls)).1, Regular other) →
      ∀ other ∈ ((client.perform call).2.performAll calls).1, Regular other :=
    fun regular other mem => regular other (List.mem_cons_of_mem _ mem)
  refine ⟨?_, ?_, ?_, ?_, ?_, ?_, ?_, ?_, ?_, ?_, ?_⟩
  · rw [Record.observeAll_append, ← one.record, ← rest.record]
    rfl
  · intro event mem
    rcases List.mem_append.mp mem with mem | mem
    · exact ⟨call.kind, one.own event mem⟩
    · exact rest.own event mem
  · exact List.forall_mem_append.mpr ⟨one.flat, rest.flat⟩
  · have before := one.sent
    have after := rest.sent
    rw [Counter.count_append]
    show ((client.perform call).2.performAll calls).2.network.sentRev.length = _
    omega
  · intro kind
    rw [parts, accepted_cons, rest.queries, one.queries, Nat.add_comm]
  · intro kind
    rw [parts, returned_cons, rest.succeeded, one.succeeded, Nat.add_comm]
  · rw [exhaustions_append, Counter.count_append, countP_followUps_cons, one.exhausted,
      rest.exhausted]
    omega
  · intro regular kind
    have before := one.settled (regular _ List.mem_cons_self)
    have after := rest.settled (others regular) kind
    simp only [parts]
    split
    · omega
    · omega
  · intro regular kind
    have before := one.received (regular _ List.mem_cons_self)
    have after := rest.received (others regular) kind
    simp only [parts, countP_followUps_cons]
    -- Time queries have no follow-ups, so these count for the other kind alone.
    cases asked : call.kind with
    | status =>
      cases kind with
      | status =>
        simp only [if_true] at after ⊢
        omega
      | time =>
        simp only [reduceCtorEq, if_false] at after ⊢
        omega
    | time =>
      rw [followUp?_of_time asked] at before ⊢
      simp only [Option.any_none, Bool.toNat_false] at before ⊢
      cases kind with
      | status =>
        simp only [reduceCtorEq, if_true, if_false] at after ⊢
        omega
      | time =>
        simp only [reduceCtorEq, if_true, if_false] at after ⊢
        omega
  · intro regular
    have before := one.followUps (regular _ List.mem_cons_self)
    have after := rest.followUps (others regular)
    rw [parts, countP_followUps_cons, length_followUps_cons]
    cases asked : call.kind with
    | status =>
      rw [if_pos rfl]
      omega
    | time =>
      rw [followUp?_of_time asked]
      simp only [reduceCtorEq, if_false, Option.isSome_none, Option.any_none, Bool.toNat_false]
      omega
  · intro forward event mem
    have onward := onward_carried.perform client call
    obtain ⟨forward', earlier⟩ := onward.steady.forward forward
    have later := ((onward_carried.performAll _ calls).steady.forward forward').2
    rcases List.mem_append.mp mem with mem | mem
    · have tells := one.told forward event mem
      exact ⟨call, List.mem_cons_self, tells.mono rfl (Int.le_refl _) later⟩
    · obtain ⟨other, among, tells⟩ := rest.told forward' event mem
      exact ⟨other, List.mem_cons_of_mem _ among,
        tells.mono onward.defaults earlier (Int.le_refl _)⟩

/-- Every run is accounted for. -/
theorem accounts_performAll (client : Client) (calls : List Call) :
    ∃ events, client.Accounts calls events := by
  induction calls generalizing client with
  | nil => exact ⟨[], accounts_nil client⟩
  | cons call calls ih =>
    obtain ⟨events, one⟩ := client.account_perform call
    obtain ⟨later, rest⟩ := ih (client.perform call).2
    exact ⟨events ++ later, accounts_cons one rest⟩

/-- The statistics of a kind. -/
def stats (client : Client) (kind : QueryKind) : KindStats :=
  client.record.metrics.kind kind.name

/-- The metrics of a client that has made queries since another one. -/
structure Balanced (client : Client) (calls : List Call) (last : Client) : Prop where
  accepted : ∀ kind, (last.stats kind).queries = client.accepted calls kind
  returned : ∀ kind, (last.stats kind).succeeded = client.returned calls kind
  ended : ∀ kind, (last.stats kind).queries = (last.stats kind).succeeded +
    (last.stats kind).noResponse + (last.stats kind).transportErrors
  /-- What a time query receives is turned away or its answer. -/
  time : (last.stats .time).received =
    (last.stats .time).discarded.total + (last.stats .time).succeeded
  /-- A status query may receive the answer to its follow-up as well. -/
  status : (last.stats .status).received =
    (last.stats .status).discarded.total + (last.stats .status).succeeded +
      (client.followUps calls).countP Except.toBool
  followUps : (client.followUps calls).length =
    (client.followUps calls).countP Except.toBool + (last.stats .status).peerFailures
  sent : last.network.sentRev.length =
    client.network.sentRev.length + last.record.metrics.total (·.sent)
  /-- The success rates that a snapshot shows, of all queries and of those of a kind. -/
  rates : ∀ now shown, last.record.metrics.snapshot now = .ok shown →
    ∀ path ∈ [["total"], ["by_kind", "status"], ["by_kind", "time"]],
      ∃ rate percent, shown.at? (path ++ ["success_rate"]) = some (.real rate) ∧
        rate.toRat? = some percent ∧ 0 ≤ percent ∧ percent ≤ 100

/-- Events of the two kinds are those of the one and those of the other. -/
theorem countP_ofKinds {events : List TimedEvent}
    (own : ∀ event ∈ events, ∃ kind : QueryKind, event.event.kindName = kind.name)
    (p : TimedEvent → Bool) :
    (ofKind QueryKind.status.name events).countP p + (ofKind QueryKind.time.name events).countP p =
      events.countP p := by
  induction events with
  | nil => rfl
  | cons event events ih =>
    have rest := ih fun other mem => own other (List.mem_cons_of_mem _ mem)
    obtain ⟨kind, named⟩ := own event List.mem_cons_self
    rw [List.countP_cons, ← rest]
    simp only [ofKind, List.filter_cons, named, QueryKind.name_inj]
    cases kind with
    | status =>
      simp only [decide_true, reduceCtorEq, decide_false, if_true, if_false, List.countP_cons]
      omega
    | time =>
      simp only [decide_true, reduceCtorEq, decide_false, if_true, if_false, List.countP_cons]
      omega

namespace Accounts

variable {client : Client} {calls : List Call} {events : List TimedEvent}

theorem bothKinds (accounts : client.Accounts calls events)
    (fresh : client.record.metrics.kinds = [("status", {}), ("time", {})]) :
    (client.performAll calls).2.record.metrics.BothKinds := by
  rw [accounts.record]
  exact Metrics.BothKinds.observeAll (by rw [Metrics.BothKinds, fresh]; rfl) accounts.own

theorem kind_of_fresh (fresh : client.record.metrics.kinds = [("status", {}), ("time", {})])
    (kind : QueryKind) : client.record.metrics.kind kind.name = {} := by
  rw [Metrics.kind, fresh]
  cases kind <;> rfl

/-- The counters of a client are the counts of its events. -/
theorem counter_stats (accounts : client.Accounts calls events)
    (fresh : client.record.metrics.kinds = [("status", {}), ("time", {})]) (kind : QueryKind)
    (counter : Counter) : ((client.performAll calls).2.stats kind).counter counter =
      counter.count (ofKind kind.name events) := by
  rw [stats, accounts.record, Record.counter_observeAll, kind_of_fresh fresh]
  cases counter <;> exact Nat.zero_add _

/-- All events are those of status queries and those of time queries. -/
theorem count_eq_add (accounts : client.Accounts calls events)
    (fresh : client.record.metrics.kinds = [("status", {}), ("time", {})]) (counter : Counter) :
    counter.count events = ((client.performAll calls).2.stats .status).counter counter +
      ((client.performAll calls).2.stats .time).counter counter := by
  rw [accounts.counter_stats fresh, accounts.counter_stats fresh]
  exact (countP_ofKinds accounts.own _).symm

end Accounts

/-- The metrics of a client balance after any queries that return or report an error. -/
theorem balanced_performAll (client : Client) (calls : List Call)
    (fresh : client.record.metrics.kinds = [("status", {}), ("time", {})])
    (regular : ∀ outcome ∈ (client.performAll calls).1, Regular outcome) :
    client.Balanced calls (client.performAll calls).2 := by
  obtain ⟨events, accounts⟩ := client.accounts_performAll calls
  have both := accounts.bothKinds fresh
  have counters := accounts.counter_stats fresh
  have ended : ∀ kind, ((client.performAll calls).2.stats kind).queries =
      ((client.performAll calls).2.stats kind).succeeded +
        ((client.performAll calls).2.stats kind).noResponse +
        ((client.performAll calls).2.stats kind).transportErrors := by
    intro kind
    have settled := accounts.settled regular kind
    simp only [← counters kind] at settled
    exact settled
  refine ⟨?_, ?_, ended, ?_, ?_, ?_, ?_, ?_⟩
  · intro kind
    exact (counters kind .queries).trans (accounts.queries kind)
  · intro kind
    exact (counters kind .succeeded).trans (accounts.succeeded kind)
  · have received := accounts.received regular .time
    simp only [← counters .time, reduceCtorEq, if_false, Nat.add_zero] at received
    exact received
  · have received := accounts.received regular .status
    simp only [← counters .status, if_true] at received
    exact received
  · have followUps := accounts.followUps regular
    simp only [← counters .status] at followUps
    exact followUps
  · rw [accounts.sent, accounts.count_eq_add fresh, both.total]
    rfl
  · intro now shown snapshot path mem
    obtain ⟨whole, kinds⟩ := both.snapshot snapshot
    have rates : ∀ kind, ((client.performAll calls).2.stats kind).successRate.Within 100 := by
      intro kind
      apply KindStats.within_successRate
      have := ended kind
      omega
    have share : (client.performAll calls).2.record.metrics.total (·.succeeded) ≤
        max 1 ((client.performAll calls).2.record.metrics.total (·.queries)) := by
      have status := ended .status
      have time := ended .time
      rw [both.total, both.total]
      simp only [stats, QueryKind.name] at status time
      omega
    simp only [List.mem_cons, List.not_mem_nil, or_false] at mem
    rcases mem with rfl | rfl | rfl
    · obtain ⟨percent, bounds⟩ := (KindStats.within_percentage (by omega) share).toRat?
      exact ⟨_, percent, whole, bounds⟩
    · obtain ⟨percent, bounds⟩ := (rates .status).toRat?
      exact ⟨_, percent, kinds .status, bounds⟩
    · obtain ⟨percent, bounds⟩ := (rates .time).toRat?
      exact ⟨_, percent, kinds .time, bounds⟩

/-- A status query whose follow-up cannot be sent, a time query whose datagram cannot be received,
one that is answered and one for a name without an address. -/
theorem balanced_performAll_refused :
    let network : Network :=
      { station := some { endpoint := ⟨"127.0.0.1", 12300⟩ }
        faults :=
          { send := [none, some "no route"], receive := [none, some "reset"] } }
    let client := Client.onNetwork network none
    let here : Request :=
      { host := "127.0.0.1", port := 12300, retries := some 0, timeoutMs := some 1000 }
    let calls : List Call := [.status here, .time here, .time here, .time { host := "nowhere" }]
    client.Balanced calls (client.performAll calls).2 := by
  intro network client here calls
  have outcomes : (client.performAll calls).1 =
      [.ok (), .error (.reported (.receive "recvfrom failed: reset")), .ok (),
        .error (.reported (.address "unknown IP address \"nowhere\""))] := by
    decide +kernel
  apply balanced_performAll client calls rfl
  rw [outcomes]
  simp [Regular]

end Client

end NtpQuery
