import NtpQuery.Proofs.Metrics

/-!
# What events are counted as

Each event is counted as at most one thing. The counters of a kind of query are
therefore known from the events of this kind alone: each has grown by the number
of events that are counted as it, whatever their order and their times.
-/

namespace NtpQuery

/-- What an event can be counted as. -/
inductive Counter where
  | queries
  | succeeded
  | noResponse
  | transportErrors
  | peerFailures
  | sent
  | received
  | discarded
  deriving DecidableEq, Repr

namespace Event

def counter? : Event → Option Counter
  | query .. => some .queries
  | sent .. => some .sent
  | received .. => some .received
  | discarded .. => some .discarded
  | attemptTimeout .. => none
  | exhausted .. => none
  | failed _ error => some (if error.isNoResponse then .noResponse else .transportErrors)
  | peerFailed _ => some .peerFailures
  | answered .. => some .succeeded

def isExhausted : Event → Bool
  | exhausted .. => true
  | _ => false

end Event

/-- How many events are counted as something. -/
def Counter.count (counter : Counter) (events : List TimedEvent) : Nat :=
  events.countP fun event => event.event.counter? = some counter

/-- The events of a kind. -/
def ofKind (kind : String) (events : List TimedEvent) : List TimedEvent :=
  events.filter fun event => event.event.kindName = kind

/-- Why datagrams were turned away, in order. -/
def reasons (events : List TimedEvent) : List String :=
  events.filterMap (·.event.reason?)

@[simp] theorem reasons_nil : reasons [] = [] := rfl

@[simp] theorem reasons_cons (event : TimedEvent) (events : List TimedEvent) :
    reasons (event :: events) = event.event.reason?.toList ++ reasons events := by
  cases told : event.event.reason? <;> simp [reasons, told]

namespace Counter

variable (counter : Counter)

@[simp] theorem count_nil : counter.count [] = 0 := rfl

@[simp] theorem count_cons (event : TimedEvent) (events : List TimedEvent) :
    counter.count (event :: events) =
      counter.count events + if event.event.counter? = some counter then 1 else 0 := by
  simp [count, List.countP_cons]

@[simp] theorem count_append (events later : List TimedEvent) :
    counter.count (events ++ later) = counter.count events + counter.count later :=
  List.countP_append

@[simp] theorem count_reverse (events : List TimedEvent) :
    counter.count events.reverse = counter.count events :=
  List.countP_reverse

/-- An exchange is counted as nothing but its datagrams. -/
theorem count_eq_zero {kind : String} {events : List TimedEvent}
    (own : ∀ event ∈ events, event.event.OfExchange kind)
    (other : counter ≠ .sent ∧ counter ≠ .received ∧ counter ≠ .discarded) :
    counter.count events = 0 := by
  apply List.countP_eq_zero.mpr
  intro event mem
  have one := own event mem
  obtain ⟨sent, received, discarded⟩ := other
  obtain ⟨time, event⟩ := event
  cases one with
  | sent => simpa [Event.counter?] using sent.symm
  | received => simpa [Event.counter?] using received.symm
  | discarded => simpa [Event.counter?] using discarded.symm
  | attemptTimeout => simp [Event.counter?]
  | exhausted => simp [Event.counter?]

end Counter

theorem ofKind_append (kind : String) (events later : List TimedEvent) :
    ofKind kind (events ++ later) = ofKind kind events ++ ofKind kind later :=
  List.filter_append _ _

theorem ofKind_of_own {kind other : String} {events : List TimedEvent}
    (own : ∀ event ∈ events, event.event.kindName = other) :
    ofKind kind events = if other = kind then events else [] := by
  split
  · rename_i same
    apply List.filter_eq_self.mpr
    intro event mem
    exact decide_eq_true ((own event mem).trans same)
  · rename_i different
    apply List.filter_eq_nil_iff.mpr
    intro event mem
    simpa [own event mem] using different

/-- All that is counted in a mapping. -/
def Mapping.total {κ : Type} (counts : Mapping κ Nat) : Nat :=
  counts.foldr (fun (_, n) sum => n + sum) 0

theorem Mapping.total_count {κ : Type} [DecidableEq κ] (key : κ) (counts : Mapping κ Nat) :
    (counts.count key).total = counts.total + 1 := by
  induction counts with
  | nil => rfl
  | cons entry rest ih =>
    obtain ⟨k, n⟩ := entry
    by_cases same : k = key
    · simp [count, update, updateBy, total, same]
      omega
    · have step : count key ((k, n) :: rest) = (k, n) :: count key rest := by
        simp [count, update, updateBy, same]
      simp only [total, List.foldr_cons, step] at ih ⊢
      omega

theorem Mapping.nodup_keys_countAll {κ : Type} [DecidableEq κ] (keys : List κ)
    {counts : Mapping κ Nat} (distinct : counts.keys.Nodup) :
    (counts.countAll keys).keys.Nodup := by
  induction keys generalizing counts with
  | nil => exact distinct
  | cons key keys ih => exact ih (nodup_keys_update key _ distinct)

/-- A key is found with the number of its occurrences. -/
theorem Mapping.get?_countAll {κ : Type} [DecidableEq κ] (keys : List κ) (counts : Mapping κ Nat)
    (key : κ) : (counts.countAll keys).get? key =
      if key ∈ keys then some ((counts.get? key).getD 0 + keys.count key) else counts.get? key := by
  induction keys generalizing counts with
  | nil => rfl
  | cons other keys ih =>
    rw [countAll_cons, ih, count, get?_update]
    by_cases same : key = other
    · subst same
      by_cases again : key ∈ keys
      · simp [again]
        omega
      · simp [again, List.count_eq_zero_of_not_mem again]
    · by_cases again : key ∈ keys
      · simp [same, again, List.count_cons_of_ne (Ne.symm same)]
      · simp [same, again]

theorem Mapping.getD_get?_countAll {κ : Type} [DecidableEq κ] (keys : List κ)
    (counts : Mapping κ Nat) (key : κ) :
    ((counts.countAll keys).get? key).getD 0 = (counts.get? key).getD 0 + keys.count key := by
  rw [get?_countAll]
  split
  · rfl
  · rename_i absent
    rw [List.count_eq_zero_of_not_mem absent, Nat.add_zero]

namespace KindStats

def counter (stats : KindStats) : Counter → Nat
  | .queries => stats.queries
  | .succeeded => stats.succeeded
  | .noResponse => stats.noResponse
  | .transportErrors => stats.transportErrors
  | .peerFailures => stats.peerFailures
  | .sent => stats.sent
  | .received => stats.received
  | .discarded => stats.discarded.total

theorem counter_observe (window : Option Nat) (stats : KindStats) (event : Event)
    (counter : Counter) :
    (stats.observe window event).counter counter =
      stats.counter counter + if event.counter? = some counter then 1 else 0 := by
  cases event with
  | query => cases counter <;> rfl
  | sent => cases counter <;> rfl
  | received => cases counter <;> rfl
  | discarded kind source reason =>
    cases counter with
    | discarded => exact Mapping.total_count reason stats.discarded
    | _ => rfl
  | attemptTimeout => rfl
  | exhausted => rfl
  | failed kind error =>
    cases silent : error.isNoResponse <;> cases counter <;>
      simp [observe, KindStats.counter, Event.counter?, silent]
  | peerFailed => cases counter <;> rfl
  | answered => cases counter <;> rfl

end KindStats

/-- The counters of a kind after any events. -/
theorem Record.counter_observeAll (record : Record) (events : List TimedEvent) (kind : String)
    (counter : Counter) :
    ((record.observeAll events).metrics.kind kind).counter counter =
      (record.metrics.kind kind).counter counter + counter.count (ofKind kind events) := by
  induction events generalizing record with
  | nil => rfl
  | cons event events ih =>
    have observed := Metrics.kind_observe record.metrics event kind
    have next : (record.observe event).metrics = record.metrics.observe event := rfl
    rw [observeAll_cons, ih, next, observed]
    by_cases own : event.event.kindName = kind
    · rw [if_pos own.symm, KindStats.counter_observe]
      simp only [ofKind, List.filter_cons, own, decide_true, if_true, Counter.count_cons]
      omega
    · rw [if_neg (Ne.symm own)]
      simp [ofKind, own]

theorem KindStats.discarded_observe (window : Option Nat) (stats : KindStats) (event : Event) :
    (stats.observe window event).discarded = stats.discarded.countAll event.reason?.toList := by
  cases event with
  | failed kind error =>
    rw [observe]
    split
    · rfl
    · rfl
  | _ => rfl

/-- The reasons of a kind after any events are those that its events tell. -/
theorem Record.discarded_observeAll (record : Record) (events : List TimedEvent) (kind : String) :
    ((record.observeAll events).metrics.kind kind).discarded =
      (record.metrics.kind kind).discarded.countAll
        (reasons (ofKind kind events)) := by
  induction events generalizing record with
  | nil => rfl
  | cons event events ih =>
    have observed := Metrics.kind_observe record.metrics event kind
    have next : (record.observe event).metrics = record.metrics.observe event := rfl
    rw [observeAll_cons, ih, next, observed]
    by_cases own : event.event.kindName = kind
    · rw [if_pos own.symm, KindStats.discarded_observe]
      cases told : event.event.reason? with
      | none => simp [ofKind, own, told]
      | some reason => simp [ofKind, own, told]
    · rw [if_neg (Ne.symm own)]
      simp [ofKind, own]

end NtpQuery
