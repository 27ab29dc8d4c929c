import NtpQuery.Proofs.Client.Conclusion
import NtpQuery.Proofs.Metrics.Percentile

/-!
# When the statistics can be shown

A window shows the mean and the median of its round-trip times, which are doubles
unless they are exact. Of one round-trip time both are the time itself, however
long it was, so a snapshot fails for no client that has had one answer at most.
Of more they exist as long as the times are in the range of the doubles.

No window holds more round-trip times than answers were counted for its kind, or
other times than those of answers.
-/

namespace NtpQuery

namespace KindStats

/-- A window with at most one round-trip time is shown as it is. -/
theorem record_of_single {stats : KindStats} (few : stats.roundTripsRev.length ≤ 1)
    (kind : String) : ∃ shown, stats.record kind = .ok shown := by
  match window : stats.roundTripsRev with
  | [] =>
    simp only [record, windowValue, window]
    exact ⟨_, rfl⟩
  | [time] =>
    have mean : mean? [time] = some (.whole time) := by
      simp [mean?, Number.mean?, Number.unbounded, Number.exactSum, Number.isWhole, Number.roundTo,
        Binary64.powTwo]
    have median : median? [time] = some (.whole time) := by
      simp [median?, ascending, sortBy, insertSorted, middle?]
    have p95 : p95? [time] = some time := rfl
    simp only [record, windowValue, window, List.isEmpty_cons, Bool.false_eq_true, if_false,
      List.reverse_singleton, mean, median, p95]
    exact ⟨_, rfl⟩
  | _ :: _ :: _ => simp [window] at few

theorem mem_keepNewest {α : Type} {window : Option Nat} {items : List α} {a : α}
    (mem : a ∈ keepNewest window items) : a ∈ items := by
  cases window with
  | none => exact mem
  | some size => exact List.mem_of_mem_take mem

/-- A time in a window was there before, or is the one that is answered. -/
theorem mem_roundTripsRev_observe {stats : KindStats} {window : Option Nat} {event : Event}
    {time : Int} (mem : time ∈ (stats.observe window event).roundTripsRev) :
    time ∈ stats.roundTripsRev ∨ event.measured? = some time := by
  cases event with
  | answered kind roundTrip result =>
    simp only [observe] at mem
    split at mem
    · rcases List.mem_cons.mp (mem_keepNewest mem) with rfl | mem
      · exact .inr rfl
      · exact .inl mem
    · exact .inl mem
  | failed kind error =>
    simp only [observe] at mem
    split at mem
    · exact .inl mem
    · exact .inl mem
  | _ => exact .inl mem

theorem length_observe {stats : KindStats} (window : Option Nat) (event : Event)
    (sampled : stats.roundTripsRev.length ≤ stats.succeeded) :
    (stats.observe window event).roundTripsRev.length ≤ (stats.observe window event).succeeded := by
  cases event with
  | answered kind roundTrip result =>
    have kept : ∀ times : List Int, (keepNewest window times).length ≤ times.length := by
      intro times
      cases window with
      | none => exact Nat.le_refl _
      | some size => exact List.length_take_le' size times
    simp only [observe]
    split
    · exact Nat.le_trans (kept _) (Nat.succ_le_succ sampled)
    · exact Nat.le_succ_of_le sampled
  | failed kind error =>
    simp only [observe]
    split
    · exact sampled
    · exact sampled
  | _ => exact sampled

end KindStats

namespace Metrics

variable {metrics : Metrics}

/-- No kind has more round-trip times than answers. -/
def Sampled (metrics : Metrics) : Prop :=
  ∀ name, (metrics.kind name).roundTripsRev.length ≤ (metrics.kind name).succeeded

theorem sampled_fresh (now : Int) : (fresh now).Sampled := by
  intro name
  rw [kind_fresh]
  exact Nat.le_refl 0

theorem Sampled.observe (sampled : metrics.Sampled) (event : TimedEvent) :
    (metrics.observe event).Sampled := by
  intro name
  rw [kind_observe]
  split
  · exact KindStats.length_observe _ _ (sampled name)
  · exact sampled name

theorem Sampled.observeAll {record : Record} (sampled : record.metrics.Sampled)
    (events : List TimedEvent) : (record.observeAll events).metrics.Sampled := by
  induction events generalizing record with
  | nil => exact sampled
  | cons event events ih =>
    have next : (record.observe event).metrics.Sampled := sampled.observe event
    exact ih next

/-- No round-trip time in a window is beyond the range of the doubles. -/
def IsTimely (metrics : Metrics) : Prop :=
  ∀ name, ∀ time ∈ (metrics.kind name).roundTripsRev, time.natAbs ≤ Binary64.largest

theorem isTimely_fresh (now : Int) : (fresh now).IsTimely := by
  intro name time mem
  simp at mem

theorem IsTimely.observe (timely : metrics.IsTimely) {event : TimedEvent}
    (small : ∀ time, event.event.measured? = some time → time.natAbs ≤ Binary64.largest) :
    (metrics.observe event).IsTimely := by
  intro name time mem
  rw [kind_observe] at mem
  split at mem
  · rcases KindStats.mem_roundTripsRev_observe mem with mem | told
    · exact timely name time mem
    · exact small time told
  · exact timely name time mem

theorem IsTimely.observeAll {record : Record} (timely : record.metrics.IsTimely)
    {events : List TimedEvent} (small : ∀ event ∈ events, ∀ time,
      event.event.measured? = some time → time.natAbs ≤ Binary64.largest) :
    (record.observeAll events).metrics.IsTimely := by
  induction events generalizing record with
  | nil => exact timely
  | cons event events ih =>
    rw [List.forall_mem_cons] at small
    have next : (record.observe event).metrics.IsTimely := timely.observe small.1
    exact ih next small.2

/-- The statistics can be shown when those of both kinds can. -/
theorem BothKinds.snapshot_of_records (both : metrics.BothKinds)
    (records : ∀ kind : QueryKind, ∃ shown, (metrics.kind kind.name).record kind.name = .ok shown)
    (now : Int) : ∃ shown, metrics.snapshot now = .ok shown := by
  obtain ⟨status, statusShown⟩ := records .status
  obtain ⟨time, timeShown⟩ := records .time
  have all : kindRecords metrics.kinds = .ok [("status", status), ("time", time)] := by
    rw [both.eq]
    simp only [kindRecords]
    rw [show (metrics.kind "status").record "status" = _ from statusShown,
      show (metrics.kind "time").record "time" = _ from timeShown]
    rfl
  rw [Metrics.snapshot, all]
  exact ⟨_, rfl⟩

/-- The statistics of one answer at most can be shown. -/
theorem BothKinds.snapshot_ok (both : metrics.BothKinds) (sampled : metrics.Sampled)
    (few : metrics.total (·.succeeded) ≤ 1) (now : Int) :
    ∃ shown, metrics.snapshot now = .ok shown := by
  rw [both.total] at few
  refine both.snapshot_of_records (fun kind => KindStats.record_of_single ?_ kind.name) now
  refine Nat.le_trans (sampled kind.name) ?_
  cases kind with
  | status => exact Nat.le_trans (Nat.le_add_right _ _) few
  | time => exact Nat.le_trans (Nat.le_add_left _ _) few

/-- The statistics of times in the range of the doubles can be shown. -/
theorem BothKinds.snapshot_of_timely (both : metrics.BothKinds) (timely : metrics.IsTimely)
    (now : Int) : ∃ shown, metrics.snapshot now = .ok shown :=
  both.snapshot_of_records (fun kind => KindStats.record_ok kind.name (timely kind.name)) now

end Metrics

namespace Client

/-- By the clocks of a machine a query leaves no round-trip time beyond the doubles. -/
theorem isTimely_perform {client : Client} (timely : client.record.metrics.IsTimely) (call : Call)
    (clocked : client.network.Clocked (client.perform call).2.network) :
    (client.perform call).2.record.metrics.IsTimely := by
  obtain ⟨events, account⟩ := client.account_perform call
  rw [account.record]
  refine timely.observeAll ?_
  intro event mem time told
  obtain ⟨budget, -, between⟩ := account.told clocked.forward event mem
  have trip := between.roundTrip time told
  have elapsed : (client.perform call).2.now - client.now ≤ Binary64.largest := clocked.elapsed
  omega

end Client

end NtpQuery
