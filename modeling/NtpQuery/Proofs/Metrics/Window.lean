import NtpQuery.Proofs.Counter
import NtpQuery.Proofs.Metrics.Percentile

/-!
# Metrics as a fold of the calls that record

Whatever is recorded, and in whatever order, the metrics are known from the calls.
The counters of a kind count the calls for this kind, all of them; the windows
keep the latest round-trip times of each kind and the latest failures of all, and
nothing else. A round-trip time below zero is a success without a sample.

One call adds to the counters and the windows what it tells, and to those of its
own kind only. The rest follows call by call. What a record shows of a window is
therefore percentile and median of the latest round-trip times.
-/

namespace NtpQuery

/-- A call that records something; a failure is kept with the time of the monotonic clock. -/
inductive Recording where
  | query (kind : String)
  | sent (kind : String)
  | received (kind : String)
  | discarded (kind reason : String)
  | success (kind : String) (roundTrip : Int)
  | failure (now : Int) (kind : String) (error : QueryError) (noResponse : Bool)
  | peerFailure (now : Int) (error : QueryError)
  deriving DecidableEq

namespace Metrics

def note (metrics : Metrics) : Recording → Metrics
  | .query kind => metrics.recordQuery kind
  | .sent kind => metrics.recordSent kind
  | .received kind => metrics.recordReceived kind
  | .discarded kind reason => metrics.recordDiscarded kind reason
  | .success kind roundTrip => metrics.recordSuccess kind roundTrip
  | .failure now kind error noResponse => metrics.recordFailure now kind error noResponse
  | .peerFailure now error => metrics.recordPeerFailure now error

def noteAll (metrics : Metrics) (calls : List Recording) : Metrics :=
  calls.foldl note metrics

end Metrics

namespace Recording

/-- The kind of query that a call is for. -/
def kind : Recording → String
  | query kind => kind
  | sent kind => kind
  | received kind => kind
  | discarded kind _ => kind
  | success kind _ => kind
  | failure _ kind _ _ => kind
  | peerFailure .. => QueryKind.status.name

/-- What a call is counted as. -/
def counter : Recording → Counter
  | query _ => .queries
  | sent _ => .sent
  | received _ => .received
  | discarded .. => .discarded
  | success .. => .succeeded
  | failure _ _ _ noResponse => if noResponse then .noResponse else .transportErrors
  | peerFailure .. => .peerFailures

/-- The round-trip time of a kind that a call tells, unless it is below zero. -/
def sample? (name : String) : Recording → Option Int
  | success kind roundTrip => if kind = name ∧ 0 ≤ roundTrip then some roundTrip else none
  | _ => none

/-- The failure that a call tells, in metrics that were started at a time. -/
def failure? (started : Int) : Recording → Option RecentFailure
  | failure now kind error _ => some ⟨now - started, some kind, error.message⟩
  | peerFailure now error => some ⟨now - started, none, error.message⟩
  | _ => none

/-- An event of a query that is recorded in the same way. -/
def event : Recording → TimedEvent
  | query kind => ⟨0, .query kind default 0 0⟩
  | sent kind => ⟨0, .sent kind 0 0 none⟩
  | received kind => ⟨0, .received kind default 0 0⟩
  | discarded kind reason => ⟨0, .discarded kind default reason⟩
  | success kind roundTrip => ⟨0, .answered kind roundTrip []⟩
  | failure now kind error true => ⟨now, .failed kind (.noResponse error.message)⟩
  | failure now kind error false => ⟨now, .failed kind (.general error.message)⟩
  | peerFailure now error => ⟨now, .peerFailed error⟩

theorem kindName_event (call : Recording) : call.event.event.kindName = call.kind := by
  cases call with
  | failure now kind error noResponse => cases noResponse <;> rfl
  | _ => rfl

theorem counter?_event (call : Recording) : call.event.event.counter? = some call.counter := by
  cases call with
  | failure now kind error noResponse => cases noResponse <;> rfl
  | _ => rfl

/-- A call tells a reason exactly if it is the one that records it. -/
theorem count_reason?_event (call : Recording) (reason : String) :
    call.event.event.reason?.toList.count reason = [call].count (.discarded call.kind reason) := by
  cases call with
  | discarded kind told => simp [event, Event.reason?, Recording.kind, List.count_singleton]
  | failure now kind error noResponse => cases noResponse <;> rfl
  | _ => rfl

theorem count_of_ne (call : Recording) {name : String} (different : name ≠ call.kind)
    (reason : String) : [call].count (.discarded name reason) = 0 := by
  apply List.count_eq_zero.mpr
  intro mem
  rw [← List.mem_singleton.mp mem] at different
  exact different rfl

end Recording

namespace Metrics

variable {metrics : Metrics} {calls : List Recording} {size : Nat} {started : Int}

theorem note_eq_observe (metrics : Metrics) (call : Recording) :
    metrics.note call = metrics.observe call.event := by
  cases call with
  | failure now kind error noResponse => cases noResponse <;> rfl
  | _ => rfl

/-- A call changes the statistics of its own kind. -/
theorem kind_note (metrics : Metrics) (call : Recording) (name : String) :
    (metrics.note call).kind name =
      if name = call.kind then (metrics.kind name).observe metrics.window call.event.event
      else metrics.kind name := by
  rw [note_eq_observe, kind_observe, call.kindName_event]

/-- A call for one kind leaves what there is of another. -/
theorem get?_note (metrics : Metrics) {call : Recording} {other : String}
    (different : other ≠ call.kind) :
    (metrics.note call).kinds.get? other = metrics.kinds.get? other := by
  have update : ∀ (name : String) (f : Option KindStats → KindStats), other ≠ name →
      (metrics.kinds.update name f).get? other = metrics.kinds.get? other := by
    intro name f unlike
    rw [Mapping.get?_update, if_neg unlike]
  cases call with
  | _ => exact update _ _ different

/-- What a call adds to the window of its kind. -/
theorem roundTripsRev_note (metrics : Metrics) (call : Recording) (name : String) :
    ((metrics.note call).kind name).roundTripsRev =
      match call.sample? name with
      | some time => keepNewest metrics.window (time :: (metrics.kind name).roundTripsRev)
      | none => (metrics.kind name).roundTripsRev := by
  rw [kind_note]
  cases call with
  | success kind roundTrip =>
    by_cases own : name = kind
    · subst own
      by_cases sampled : 0 ≤ roundTrip
      · simp [Recording.kind, Recording.sample?, Recording.event, KindStats.observe, sampled]
      · simp [Recording.kind, Recording.sample?, Recording.event, KindStats.observe, sampled]
    · simp [Recording.kind, Recording.sample?, own, Ne.symm own]
  | failure now kind error noResponse =>
    split
    · cases noResponse <;> rfl
    · rfl
  | _ =>
    split
    · rfl
    · rfl

/-- What a call adds to the window of the failures. -/
theorem failuresRev_note (metrics : Metrics) (call : Recording) :
    (metrics.note call).failuresRev =
      match call.failure? metrics.started with
      | some failure => keepNewest metrics.window (failure :: metrics.failuresRev)
      | none => metrics.failuresRev := by
  cases call with
  | _ => rfl

/-- What the calls so far have told, in windows of a given size. -/
structure Tallied (size : Nat) (started : Int) (calls : List Recording) (metrics : Metrics) :
    Prop where
  window : metrics.window = some size
  started_eq : metrics.started = started
  counters : ∀ name counter, (metrics.kind name).counter counter =
    calls.countP fun call => call.kind = name ∧ call.counter = counter
  reasons : ∀ name reason,
    ((metrics.kind name).discarded.get? reason).getD 0 = calls.count (.discarded name reason)
  samples : ∀ name, (metrics.kind name).roundTripsRev =
    keepNewest (some size) (calls.filterMap (·.sample? name)).reverse
  failures : metrics.failuresRev =
    keepNewest (some size) (calls.filterMap (·.failure? started)).reverse

theorem Tallied.note (tallied : Tallied size started calls metrics) (call : Recording) :
    Tallied size started (calls ++ [call]) (metrics.note call) where
  window := by rw [note_eq_observe, window_observe, tallied.window]
  started_eq := by
    rw [← tallied.started_eq]
    cases call <;> rfl
  counters name counter := by
    rw [kind_note, List.countP_append, ← tallied.counters name counter]
    by_cases own : name = call.kind
    · rw [if_pos own, KindStats.counter_observe, call.counter?_event]
      simp [own]
    · rw [if_neg own]
      simp [Ne.symm own]
  reasons name reason := by
    rw [kind_note, List.count_append, ← tallied.reasons name reason]
    by_cases own : name = call.kind
    · rw [if_pos own, KindStats.discarded_observe, Mapping.getD_get?_countAll, own,
        call.count_reason?_event]
    · rw [if_neg own, call.count_of_ne own, Nat.add_zero]
  samples name := by
    rw [roundTripsRev_note, tallied.window, tallied.samples name, List.filterMap_append,
      List.reverse_append]
    cases told : call.sample? name with
    | none => simp [told]
    | some time => simp [told, keepNewest_cons_keepNewest]
  failures := by
    rw [failuresRev_note, tallied.window, tallied.started_eq, tallied.failures,
      List.filterMap_append, List.reverse_append]
    cases told : call.failure? started with
    | none => simp [told]
    | some failure => simp [told, keepNewest_cons_keepNewest]

theorem create_ok (expressible : (size : Int) ≤ maxWindow) :
    create (some size) started = .ok { window := some size, started } := by
  have low : -maxWindow - 1 ≤ (0 : Int) := by decide
  have within : ¬((size : Int) < -maxWindow - 1 ∨ maxWindow < size) := by omega
  have natural : ¬(size : Int) < 0 := by omega
  rw [create]
  exact (if_neg within).trans (if_neg natural)

theorem tallied_nil (size : Nat) (started : Int) :
    Tallied size started [] { window := some size, started } := by
  have idle : ∀ name, Metrics.kind { window := some size, started } name = {} := by
    intro name
    simp only [kind, Mapping.get?_cons]
    split
    · rfl
    · split
      · rfl
      · rfl
  exact
    { window := rfl
      started_eq := rfl
      counters := fun name counter => by
        rw [idle]
        cases counter <;> rfl
      reasons := fun name reason => by
        rw [idle]
        rfl
      samples := fun name => by
        rw [idle]
        exact List.take_nil.symm
      failures := List.take_nil.symm }

/-- Any calls after the metrics were made. -/
theorem tallied_noteAll (size : Nat) (started : Int) (calls : List Recording) :
    Tallied size started calls (noteAll { window := some size, started } calls) := by
  induction calls using List.reverseRecOn with
  | nil => exact tallied_nil size started
  | append_singleton calls call ih =>
    rw [noteAll, List.foldl_append]
    exact ih.note call

/-- The latest of a window, oldest first. -/
theorem reverse_keepNewest {α : Type} (size : Nat) (oldestFirst : List α) :
    (keepNewest (some size) oldestFirst.reverse).reverse =
      oldestFirst.drop (oldestFirst.length - size) := by
  rw [keepNewest, List.reverse_take, List.reverse_reverse, List.length_reverse]

namespace Tallied

variable (tallied : Tallied size started calls metrics)

include tallied

theorem window_eq (name : String) :
    let times := calls.filterMap (·.sample? name)
    (metrics.kind name).roundTripsRev.reverse = times.drop (times.length - size) := by
  rw [tallied.samples name, reverse_keepNewest]

theorem recentFailures_eq {count : Int} (least : 1 ≤ count) :
    let failures := calls.filterMap (·.failure? started)
    metrics.recentFailures count =
      failures.drop (failures.length - min count.toNat size) := by
  intro failures
  have kept : metrics.failuresRev.reverse = failures.drop (failures.length - size) := by
    rw [tallied.failures, reverse_keepNewest]
  rw [recentFailures, if_neg (by omega), if_pos (by omega), kept, List.drop_drop, List.length_drop]
  congr 1
  omega

/-- All times in the window were told by calls. -/
theorem mem_window {name : String} {time : Int}
    (mem : time ∈ (metrics.kind name).roundTripsRev.reverse) :
    0 ≤ time ∧ .success name time ∈ calls := by
  rw [tallied.window_eq name] at mem
  obtain ⟨call, among, told⟩ := List.mem_filterMap.mp (List.mem_of_mem_drop mem)
  cases call with
  | success kind roundTrip =>
    simp only [Recording.sample?, Option.ite_none_right_eq_some, Option.some.injEq] at told
    obtain ⟨⟨rfl, natural⟩, rfl⟩ := told
    exact ⟨natural, among⟩
  | _ => simp [Recording.sample?] at told

end Tallied

/-- Metrics with windows of any size that the machine can express are known from the calls. Every
counter of a kind is the number of its calls; the window of a kind holds the latest round-trip
times of the kind that are not below zero, and the failures shown are the latest ones. A call for
one kind leaves those of another as they are. What is shown of a window with samples is in order:
the median, the percentile and the largest sample. -/
theorem noteAll_told (size : Nat) (started : Int) :
    (maxWindow < size ∧ create (some size) started = .error .overflow) ∨
      ∃ fresh, create (some size) started = .ok fresh ∧ ∀ calls : List Recording,
        let metrics := fresh.noteAll calls
        (∀ name counter, (metrics.kind name).counter counter =
          calls.countP fun call => call.kind = name ∧ call.counter = counter) ∧
        (∀ name reason, ((metrics.kind name).discarded.get? reason).getD 0 =
          calls.count (.discarded name reason)) ∧
        (∀ name, let times := calls.filterMap (·.sample? name)
          (metrics.kind name).roundTripsRev.reverse = times.drop (times.length - size)) ∧
        (∀ count : Int, 1 ≤ count → let failures := calls.filterMap (·.failure? started)
          metrics.recentFailures count =
            failures.drop (failures.length - min count.toNat size)) ∧
        (∀ call other, other ≠ call.kind →
          (metrics.note call).kinds.get? other = metrics.kinds.get? other) ∧
        ((∀ name time, .success name time ∈ calls → time < 2 ^ 50) → ∀ name,
          let samples := (metrics.kind name).roundTripsRev.reverse
          samples ≠ [] → samples.length < 2 ^ 40 →
            ∃ shown p95 median value, (metrics.kind name).record name = .ok shown ∧
              shown.member? "p95_rtt_ms" = some (.whole p95) ∧
              shown.member? "median_rtt_ms" = some (.number median) ∧
              median.toRat? = some value ∧ KindStats.IsP95 samples p95 ∧ value ≤ p95) := by
  rcases Int.lt_or_le maxWindow size with large | expressible
  · refine .inl ⟨large, ?_⟩
    rw [create]
    exact if_pos (.inr large)
  · refine .inr ⟨_, create_ok expressible, ?_⟩
    intro calls metrics
    have tallied := tallied_noteAll size started calls
    refine ⟨tallied.counters, tallied.reasons, tallied.window_eq,
      fun count least => tallied.recentFailures_eq least,
      fun call other different => get?_note metrics different, ?_⟩
    intro small name samples nonempty short
    apply KindStats.record_quantiles name nonempty ?_ short
    intro time mem
    obtain ⟨natural, told⟩ := tallied.mem_window mem
    exact ⟨natural, small name time told⟩

/-- Windows of two elements after successes, one of them without a sample, and failures. -/
theorem noteAll_told_two :
    let calls : List Recording :=
      [.success "time" 5, .discarded "time" "short", .success "time" 9, .success "time" (-1),
       .failure 30 "time" (.general "late") true, .success "time" 7,
       .failure 40 "other" (.general "down") false, .peerFailure 50 (.general "lost")]
    ∃ fresh, create (some 2) 10 = .ok fresh ∧
      ((fresh.noteAll calls).kind "time").succeeded = 4 ∧
      (((fresh.noteAll calls).kind "time").discarded.get? "short").getD 0 = 1 ∧
      ((fresh.noteAll calls).kind "time").roundTripsRev.reverse = [9, 7] ∧
      (fresh.noteAll calls).recentFailures 3 =
        [⟨30, some "other", "down"⟩, ⟨40, none, "lost"⟩] ∧
      ∃ shown, ((fresh.noteAll calls).kind "time").record "time" = .ok shown ∧
        shown.member? "p95_rtt_ms" = some (.whole 9) := by
  intro calls
  rcases noteAll_told 2 10 with ⟨large, -⟩ | ⟨fresh, made, told⟩
  · exact absurd large (by decide)
  · obtain ⟨counters, reasons, windows, failures, -, quantiles⟩ := told calls
    have window : ((fresh.noteAll calls).kind "time").roundTripsRev.reverse = [9, 7] :=
      (windows "time").trans (by decide +kernel)
    have small : ∀ name time, .success name time ∈ calls → time < 2 ^ 50 := by
      intro name time mem
      simp only [calls, List.mem_cons, Recording.success.injEq, reduceCtorEq, List.not_mem_nil,
        or_false, false_or] at mem
      omega
    obtain ⟨shown, p95, -, -, recorded, upper, -, -, isP95, -⟩ :=
      quantiles small "time" (by rw [window]; decide) (by rw [window]; decide)
    rw [window] at isP95
    obtain rfl : 9 = p95 := Option.some.inj (isP95.few (by decide))
    exact ⟨fresh, made, (counters "time" .succeeded).trans (by decide +kernel),
      (reasons "time" "short").trans (by decide +kernel), window,
      (failures 3 (by decide)).trans (by decide +kernel), shown, recorded, upper⟩

end Metrics

end NtpQuery
