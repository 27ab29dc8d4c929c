import Mathlib.Data.List.Induction
import NtpQuery.Proofs.Binary64.Range
import NtpQuery.Proofs.EventLog.Entry
import NtpQuery.Proofs.Sorting

/-!
# Counting the records of a log

A record tells whatever is counted of its event. So counting the records of
events is counting the events: the tallies, the reasons and the numbers of
records of a type all follow from the events alone.

Mean and median of the round-trip times exist as long as the times are in the range
of the doubles, and nothing else can be missing.
-/

namespace NtpQuery

/-! ### Keys that are texts -/

/-- A mapping with texts as keys, as a log is read. -/
def Mapping.textual {α : Type} (mapping : Mapping String α) : Mapping Json α :=
  mapping.map fun entry => (.text entry.1, entry.2)

namespace LogFiles

variable {α : Type}

theorem updateBy_textual (key : String) (f : Option α → α) (mapping : Mapping String α) :
    Mapping.updateBy Json.same (.text key) f mapping.textual = (mapping.update key f).textual := by
  induction mapping with
  | nil => rfl
  | cons entry rest ih =>
    obtain ⟨k, v⟩ := entry
    by_cases same : k = key
    · simp [Mapping.textual, Mapping.update, Mapping.updateBy, same]
    · simp only [Mapping.textual, Mapping.update] at ih
      simp [Mapping.textual, Mapping.update, Mapping.updateBy, same, ih]

theorem textKeys_textual {mapping : Mapping String α} (distinct : mapping.keys.Nodup) :
    textKeys mapping.textual = mapping := by
  rw [textKeys, Mapping.textual, List.map_map]
  exact (congrArg Mapping.ofEntries (List.map_id mapping)).trans
    (Mapping.ofEntries_eq_self distinct)

theorem keyOf_of_text {name key : String} {record : Json}
    (h : record.member? name = some (.text key)) : keyOf name record = .ok (.text key) := by
  rw [keyOf, h]
  rfl

/-! ### Records of a type -/

variable {files : LogFiles} {events : List TimedEvent}

/-- The lines of the file are the records of these events. -/
def Holds (files : LogFiles) (events : List TimedEvent) : Prop :=
  ∀ (σ : Type) (step : σ → Json → Except Failure σ) (start : σ),
    foldEvents step start files.eventLines = (events.map EventLog.entryOf).foldlM step start

theorem holds_of_lines (lines : files.eventLines =
      (events.map EventLog.entryOf).map fun record => record.print.toList)
    (readable : ∀ event ∈ events, (EventLog.entryOf event).IsRecord) : files.Holds events := by
  intro σ step start
  rw [lines]
  apply foldEvents_print
  intro record mem
  obtain ⟨event, one, rfl⟩ := List.mem_map.mp mem
  exact readable event one

theorem isOfType_entryOf (type : String) (event : TimedEvent) :
    isOfType (.text type) (EventLog.entryOf event) = decide (event.event.typeName = type) := by
  simp [isOfType]

theorem foldlM_filter (p : Json → Bool) (records found : List Json) :
    records.foldlM (fun found record =>
      (.ok (if p record then record :: found else found) : Except Failure (List Json))) found =
      .ok ((records.filter p).reverse ++ found) := by
  induction records generalizing found with
  | nil => rfl
  | cons record records ih =>
    rw [List.foldlM_cons, List.filter_cons]
    show records.foldlM _ _ = _
    rw [ih]
    split
    · simp
    · rfl

theorem eventsOfType_eq (holds : files.Holds events) (type : String) :
    files.eventsOfType (.text type) =
      .ok ((events.filter fun event => event.event.typeName = type).map EventLog.entryOf) := by
  rw [eventsOfType, holds, foldlM_filter, List.append_nil]
  simp only [Except.map, List.reverse_reverse, List.filter_map]
  simp [Function.comp_def, isOfType_entryOf]

theorem length_eventsOfType {type : String} {p : TimedEvent → Bool}
    (same : ∀ event : TimedEvent, event.event.typeName = type ↔ p event = true)
    (holds : files.Holds events) :
    ∃ found, files.eventsOfType (.text type) = .ok found ∧ found.length = events.countP p := by
  refine ⟨_, eventsOfType_eq holds type, ?_⟩
  rw [List.length_map, ← List.countP_eq_length_filter]
  apply List.countP_congr
  intro event _
  rw [decide_eq_true_iff, same]

theorem count_reason {event : TimedEvent} {reason : String}
    (told : event.event.reason? = some reason) (counts : Mapping String Nat) :
    ((keyOf "reason" (EventLog.entryOf event)).map fun reason =>
      Mapping.updateBy Json.same reason (fun n => n.getD 0 + 1) counts.textual) =
      .ok (counts.count reason).textual := by
  rw [keyOf_of_text (EventLog.member?_reason event told), Except.map, updateBy_textual]
  rfl

theorem foldlM_reasons (events : List TimedEvent) (counts : Mapping String Nat) :
    ((events.filter fun event => event.event.typeName = "discard").map EventLog.entryOf).foldlM
      (fun (counts : Mapping Json Nat) event => (keyOf "reason" event).map fun reason =>
        counts.updateBy Json.same reason fun n => n.getD 0 + 1) counts.textual =
      .ok (counts.countAll (reasons events)).textual := by
  induction events generalizing counts with
  | nil => rfl
  | cons event events ih =>
    cases told : event.event.reason? with
    | none =>
      have other : event.event.typeName ≠ "discard" := by
        rw [ne_eq, Event.typeName_eq_discard_iff, told]
        simp
      rw [List.filter_cons_of_neg (by simp [other]), reasons_cons, told, ih]
      rfl
    | some reason =>
      have one : event.event.typeName = "discard" := by
        rw [Event.typeName_eq_discard_iff, told]
        rfl
      rw [List.filter_cons_of_pos (by simp [one]), reasons_cons, told, List.map_cons,
        List.foldlM_cons, count_reason told]
      exact ih (counts.count reason)

/-- Reasons are counted as often as events tell them. -/
theorem discardReasons_eq (holds : files.Holds events) :
    files.discardReasons =
      .ok (Mapping.countAll (reasons events) []) := by
  have counted := foldlM_reasons events []
  rw [discardReasons, eventsOfType_eq holds]
  simp only
  rw [show ([] : Mapping Json Nat) = Mapping.textual ([] : Mapping String Nat) from rfl, counted,
    Except.map, textKeys_textual]
  exact Mapping.nodup_keys_countAll _ List.nodup_nil

/-! ### Tallies -/

theorem hasType_entryOf (type : String) (event : TimedEvent) :
    hasType type (EventLog.entryOf event) = decide (event.event.typeName = type) := by
  rw [hasType, EventLog.member?_type]

namespace Tally

/-- What events come to. -/
def ofEvents (events : List TimedEvent) : Tally where
  queries := Counter.queries.count events
  sent := Counter.sent.count events
  received := Counter.received.count events
  failures := Counter.noResponse.count events + Counter.transportErrors.count events +
    Counter.peerFailures.count events

theorem add_entryOf (events : List TimedEvent) (event : TimedEvent) :
    (ofEvents events).add (EventLog.entryOf event) = ofEvents (events ++ [event]) := by
  rw [add]
  simp only [hasType_entryOf]
  obtain ⟨time, event⟩ := event
  cases event with
  | failed kind error =>
    cases silent : error.isNoResponse with
    | false =>
      simp [Event.typeName, ofEvents, Event.counter?, silent]
      omega
    | true =>
      simp [Event.typeName, ofEvents, Event.counter?, silent]
      omega
  | peerFailed =>
    simp [Event.typeName, ofEvents, Event.counter?]
    omega
  | _ => simp [Event.typeName, ofEvents, Event.counter?]

end Tally

/-- Each entry has one or more round-trip times that events tell. -/
def Heard (entries : Mapping Json (List Json)) (events : List TimedEvent) : Prop :=
  ∀ entry ∈ entries, ∃ times : List Int, entry.2 = times.map Json.whole ∧ times ≠ [] ∧
    ∀ time ∈ times, ∃ event ∈ events, event.event.roundTrip? = some time

theorem mem_updateBy {key : Json} {f : Option (List Json) → List Json}
    {entries : Mapping Json (List Json)} {entry : Json × List Json}
    (mem : entry ∈ entries.updateBy Json.same key f) :
    entry ∈ entries ∨ entry.2 = f none ∨ ∃ old ∈ entries, entry.2 = f (some old.2) := by
  induction entries with
  | nil =>
    obtain rfl := List.mem_singleton.mp mem
    exact .inr (.inl rfl)
  | cons first rest ih =>
    obtain ⟨k, times⟩ := first
    rw [Mapping.updateBy] at mem
    split at mem
    · rcases List.mem_cons.mp mem with rfl | mem
      · exact .inr (.inr ⟨_, List.mem_cons_self, rfl⟩)
      · exact .inl (List.mem_cons_of_mem _ mem)
    · rcases List.mem_cons.mp mem with rfl | mem
      · exact .inl List.mem_cons_self
      · rcases ih mem with found | fresh | ⟨old, found, changed⟩
        · exact .inl (List.mem_cons_of_mem _ found)
        · exact .inr (.inl fresh)
        · exact .inr (.inr ⟨old, List.mem_cons_of_mem _ found, changed⟩)

namespace Heard

variable {entries : Mapping Json (List Json)}

theorem append (heard : Heard entries events) (later : List TimedEvent) :
    Heard entries (events ++ later) := by
  intro entry mem
  obtain ⟨times, whole, nonempty, told⟩ := heard entry mem
  refine ⟨times, whole, nonempty, ?_⟩
  intro time found
  obtain ⟨event, one, tells⟩ := told time found
  exact ⟨event, List.mem_append_left _ one, tells⟩

/-- One more time is told by one more event. -/
theorem add (heard : Heard entries events) {event : TimedEvent} {time : Int}
    (told : event.event.roundTrip? = some time) (key : Json) :
    Heard (entries.updateBy Json.same key fun times => .whole time :: times.getD [])
      (events ++ [event]) := by
  have new : ∃ other ∈ events ++ [event], other.event.roundTrip? = some time :=
    ⟨event, by simp, told⟩
  intro entry mem
  rcases mem_updateBy mem with found | fresh | ⟨old, found, changed⟩
  · exact heard.append [event] entry found
  · refine ⟨[time], fresh, by simp, ?_⟩
    simpa using new
  · obtain ⟨times, whole, -, earlier⟩ := heard.append [event] old found
    refine ⟨time :: times, ?_, by simp, ?_⟩
    · rw [changed, Option.getD_some, whole, List.map_cons]
    · intro other mem
      rcases List.mem_cons.mp mem with rfl | mem
      · exact new
      · exact earlier other mem

end Heard

/-- What the statistics of a log say when its records are those of these events. -/
structure Statistics.Tells (statistics : Statistics) (events : List TimedEvent) : Prop where
  byKind : ∃ tallies : Mapping String Tally, statistics.byKind = tallies.textual ∧
    tallies.keys.Nodup ∧ ∀ kind, (tallies.get? kind).getD {} = .ofEvents (ofKind kind events)
  total : statistics.total = .ofEvents events
  roundTrips : Heard statistics.roundTrips events

namespace Statistics

variable {statistics : Statistics}

theorem tells_nil : Tells {} [] :=
  ⟨⟨[], rfl, List.nodup_nil, fun _ => rfl⟩, rfl, by simp [Heard]⟩

/-- The record of one more event is told as well. -/
theorem Tells.add (tells : statistics.Tells events) (event : TimedEvent) :
    ∃ next, statistics.add (EventLog.entryOf event) = .ok next ∧
      next.Tells (events ++ [event]) := by
  obtain ⟨⟨tallies, byKind, distinct, tally⟩, total, heard⟩ := tells
  rw [Statistics.add, keyOf_of_text (EventLog.member?_kind event)]
  refine ⟨_, rfl, ?_, ?_, ?_⟩
  · refine ⟨tallies.update event.event.kindName fun tally =>
      (tally.getD {}).add (EventLog.entryOf event), ?_, Mapping.nodup_keys_update _ _ distinct, ?_⟩
    · rw [← updateBy_textual, ← byKind]
    · intro kind
      rw [Mapping.get?_update, ofKind_append]
      split
      · rename_i same
        rw [Option.getD_some, ← same, tally, Tally.add_entryOf]
        simp [ofKind, same]
      · rename_i other
        rw [tally]
        simp [ofKind, Ne.symm other]
  · rw [total, Tally.add_entryOf]
  · rw [EventLog.roundTrip?_entryOf]
    cases told : event.event.roundTrip? with
    | none => exact heard.append [event]
    | some time => exact heard.add told _

/-- The statistics of a log tell of all events. -/
theorem tells_foldlM (tells : statistics.Tells events) (later : List TimedEvent) :
    ∃ last, (later.map EventLog.entryOf).foldlM Statistics.add statistics = .ok last ∧
      last.Tells (events ++ later) := by
  induction later generalizing statistics events with
  | nil => exact ⟨statistics, rfl, by rwa [List.append_nil]⟩
  | cons event later ih =>
    obtain ⟨next, stepped, tells⟩ := tells.add event
    obtain ⟨last, run, tells⟩ := ih tells
    refine ⟨last, ?_, by rwa [List.append_assoc, List.singleton_append] at tells⟩
    rw [List.map_cons, List.foldlM_cons, stepped]
    exact run

end Statistics

theorem tallies_eq (holds : files.Holds events) :
    ∃ statistics, files.tallies = .ok statistics ∧ statistics.Tells events := by
  rw [tallies, holds]
  exact Statistics.tells_foldlM Statistics.tells_nil events

end LogFiles

/-! ### Round-trip times -/

theorem natAbs_sum_le {times : List Int} {bound : Nat}
    (small : ∀ time ∈ times, time.natAbs ≤ bound) : times.sum.natAbs ≤ times.length * bound := by
  induction times with
  | nil => simp
  | cons time times ih =>
    have first := small time List.mem_cons_self
    have rest := ih fun other mem => small other (List.mem_cons_of_mem _ mem)
    rw [List.sum_cons, List.length_cons, Nat.succ_mul]
    omega

namespace Number

theorem exactSum_wholes (times : List Int) : exactSum (times.map .whole) = (times.sum, 0) := by
  induction times using List.reverseRecOn with
  | nil => rfl
  | append_singleton times time ih =>
    rw [exactSum] at ih ⊢
    rw [List.map_append, List.foldl_append, ih]
    simp [Binary64.powTwo]

theorem unbounded_wholes (times : List Int) : unbounded (times.map .whole) = [] := by
  simp [unbounded, List.filterMap_map]

theorem mean?_wholes {times : List Int} (nonempty : times ≠ [])
    (small : ∀ time ∈ times, time.natAbs ≤ Binary64.largest) :
    ∃ mean, mean? (times.map .whole) = some mean := by
  simp only [mean?, unbounded_wholes, exactSum_wholes, List.length_map]
  split
  · exact ⟨_, rfl⟩
  · obtain ⟨x, ratio⟩ :=
      Binary64.ofRatio?_of_le (List.length_pos_of_ne_nil nonempty) (natAbs_sum_le small)
    refine ⟨.real x, ?_⟩
    rw [show times.length * Binary64.powTwo (-0) = times.length from Nat.mul_one _, ratio]
    rfl

theorem halfSum?_wholes {a b : Int} (ha : a.natAbs ≤ Binary64.largest)
    (hb : b.natAbs ≤ Binary64.largest) : ∃ x, halfSum? (.whole a) (.whole b) = some x := by
  apply Binary64.ofRatio?_of_le Nat.two_pos
  omega

end Number

namespace LogFiles

/-- A round-trip time as a sample. -/
def sample (time : Int) : Number × Json :=
  (.whole time, .whole time)

theorem mapM_number? (times : List Int) :
    (times.map Json.whole).mapM (fun time => time.number?.map (·, time)) =
      some (times.map sample) := by
  induction times with
  | nil => rfl
  | cons time times ih =>
    rw [List.map_cons, List.mapM_cons, ih]
    rfl

/-- Whole samples are sorted. -/
theorem ascending_perm (times : List Int) :
    (ascending (times.map sample)).Perm (times.map sample) := by
  have comparable : ((times.map sample).all fun sample => sample.1.isComparable) = true := by
    simp [sample, Number.isComparable]
  rw [ascending, if_pos comparable]
  exact sortBy_perm _ _

/-- Mean and median of times in the range of the doubles exist. -/
theorem timesRecord_ok {times : List Int} (nonempty : times ≠ [])
    (small : ∀ time ∈ times, time.natAbs ≤ Binary64.largest) :
    ∃ record, timesRecord (times.map Json.whole) = .ok record := by
  have samples : (times.map sample).map (·.1) = times.map Number.whole := by
    simp [sample]
  have some : ascending (times.map sample) ≠ [] := by
    intro none
    have empty := (ascending_perm times).length_eq
    rw [none, List.length_map] at empty
    exact nonempty (List.length_eq_zero_iff.mp empty.symm)
  obtain ⟨middle, found, inside⟩ := middle?_spec some
  -- What is in the middle are times as well, so they are in the range.
  have origin : ∀ a ∈ middle.elements, ∃ time ∈ times, sample time = a := fun a mem =>
    List.mem_map.mp ((ascending_perm times).mem_iff.mp (inside a mem))
  obtain ⟨mean, averaged⟩ := Number.mean?_wholes nonempty small
  rw [timesRecord, mapM_number?]
  simp only [samples, found, averaged]
  cases middle with
  | one a => exact ⟨_, rfl⟩
  | two a b =>
    obtain ⟨first, one, rfl⟩ := origin a (by simp [Middle.elements])
    obtain ⟨second, other, rfl⟩ := origin b (by simp [Middle.elements])
    obtain ⟨x, half⟩ := Number.halfSum?_wholes (small first one) (small second other)
    exact ⟨_, by simp only [sample, half]; rfl⟩

/-- All round-trip times that events tell are in the range of the doubles. -/
def AreTimely (events : List TimedEvent) : Prop :=
  ∀ event ∈ events, ∀ time, event.event.roundTrip? = some time → time.natAbs ≤ Binary64.largest

/-- The records of the times exist. -/
theorem timesRecords_ok {entries : Mapping Json (List Json)} {events : List TimedEvent}
    (heard : Heard entries events) (timely : AreTimely events) :
    ∃ records, timesRecords entries = .ok records := by
  induction entries with
  | nil => exact ⟨[], rfl⟩
  | cons entry rest ih =>
    obtain ⟨kind, timesRev⟩ := entry
    obtain ⟨times, whole, nonempty, told⟩ := heard (kind, timesRev) List.mem_cons_self
    obtain rfl : timesRev = times.map Json.whole := whole
    have small : ∀ time ∈ times.reverse, time.natAbs ≤ Binary64.largest := by
      intro time mem
      obtain ⟨event, one, tells⟩ := told time (List.mem_reverse.mp mem)
      exact timely event one time tells
    obtain ⟨record, one⟩ := timesRecord_ok (by simpa using nonempty : times.reverse ≠ []) small
    obtain ⟨records, others⟩ := ih fun other mem => heard other (List.mem_cons_of_mem _ mem)
    rw [timesRecords, ← List.map_reverse, one, others]
    exact ⟨_, rfl⟩

/-- What statistics show of a kind: its tally and, where there are some, its times. -/
def shownKind (times : Mapping Json Json) (kind : String) (tally : Tally) : Json :=
  .object (tally.members ++ ((valueOf? (.text kind) times).map (("rtt", ·))).toList)

theorem textKeys_shownKind {tallies : Mapping String Tally} (distinct : tallies.keys.Nodup)
    (times : Mapping Json Json) :
    (textKeys (tallies.textual.map fun (kind, tally) =>
      (kind, Json.object (tally.members ++ ((valueOf? kind times).map (("rtt", ·))).toList)))) =
      tallies.map fun entry => (entry.1, shownKind times entry.1 entry.2) := by
  have keys : (Mapping.keys (tallies.map fun entry =>
      (entry.1, shownKind times entry.1 entry.2))).Nodup := by
    rwa [Mapping.keys, List.map_map]
  rw [← textKeys_textual keys, Mapping.textual, Mapping.textual, List.map_map, List.map_map]
  rfl

/-- The statistics of a log count the events of each kind and of all kinds. -/
theorem statistics_ok {files : LogFiles} {events : List TimedEvent}
    (holds : files.Holds events) (timely : AreTimely events) :
    ∃ kinds, files.statistics = .ok (.object
          [("by_kind", .object kinds), ("total", .object (Tally.ofEvents events).members)]) ∧
        ∀ kind, Mapping.get? kind kinds = none ∧ Tally.ofEvents (ofKind kind events) = {} ∨
          ∃ times, Mapping.get? kind kinds =
            some (.object ((Tally.ofEvents (ofKind kind events)).members ++ times)) := by
  obtain ⟨statistics, counted, ⟨tallies, byKind, distinct, tally⟩, total, heard⟩ :=
    tallies_eq holds
  obtain ⟨times, records⟩ := timesRecords_ok heard timely
  refine ⟨tallies.map fun entry => (entry.1, shownKind times entry.1 entry.2), ?_, ?_⟩
  · rw [LogFiles.statistics, counted]
    simp only
    rw [records, byKind, total, ← textKeys_shownKind distinct]
    rfl
  · intro kind
    rw [Mapping.get?_map, ← tally]
    cases tallies.get? kind with
    | none => exact .inl ⟨rfl, rfl⟩
    | some tally => exact .inr ⟨_, rfl⟩

/-- An empty file tells of nothing. -/
theorem statistics_of_nil {files : LogFiles} (none : files.eventLines = []) :
    files.statistics = .ok (.object
      [("by_kind", .object []), ("total", .object ({} : Tally).members)]) := by
  rw [LogFiles.statistics, tallies, none]
  rfl

end LogFiles

end NtpQuery
