import NtpQuery.Client
import NtpQuery.Metrics

/-!
# What events add to the statistics

Every event belongs to one kind of query and changes the statistics of this
kind alone. So the statistics of a kind after any events are those that its own
events lead to, in their order.

The events of an exchange only count datagrams. Whatever else they tell, the
statistics change by the numbers of datagrams sent and received and by the
reasons for which some were turned away.
-/

namespace NtpQuery

namespace Event

/-- The kind of query that an event belongs to. -/
def kindName : Event → String
  | query kind .. => kind
  | sent kind .. => kind
  | received kind .. => kind
  | discarded kind .. => kind
  | attemptTimeout kind _ => kind
  | exhausted kind _ => kind
  | failed kind _ => kind
  | peerFailed _ => QueryKind.status.name
  | answered kind .. => kind

def isSent : Event → Bool
  | sent .. => true
  | _ => false

def isReceived : Event → Bool
  | received .. => true
  | _ => false

/-- Why a datagram was turned away. -/
def reason? : Event → Option String
  | discarded _ _ reason => some reason
  | _ => none

/-- The events of an exchange, as opposed to those of a whole query. -/
inductive OfExchange (kind : String) : Event → Prop
  | sent {attempt size : Int} {sequence : Option Int} :
      OfExchange kind (.sent kind attempt size sequence)
  | received {source : Endpoint} {size roundTrip : Int} :
      OfExchange kind (.received kind source size roundTrip)
  | discarded {source : Endpoint} {reason : String} :
      OfExchange kind (.discarded kind source reason)
  | attemptTimeout {attempt : Int} : OfExchange kind (.attemptTimeout kind attempt)
  | exhausted {attempts : Int} : OfExchange kind (.exhausted kind attempts)

theorem OfExchange.kindName_eq {kind : String} {event : Event} (own : event.OfExchange kind) :
    event.kindName = kind := by
  cases own <;> rfl

end Event

/-- One more occurrence of each of the keys. -/
def Mapping.countAll {κ : Type} [DecidableEq κ] (keys : List κ) (mapping : Mapping κ Nat) :
    Mapping κ Nat :=
  keys.foldl (fun counts key => counts.count key) mapping

@[simp] theorem Mapping.countAll_nil {κ : Type} [DecidableEq κ] (mapping : Mapping κ Nat) :
    mapping.countAll [] = mapping := rfl

@[simp] theorem Mapping.countAll_cons {κ : Type} [DecidableEq κ] (key : κ) (keys : List κ)
    (mapping : Mapping κ Nat) :
    mapping.countAll (key :: keys) = (mapping.count key).countAll keys := rfl

/-- Datagrams sent and received, and why some were turned away. -/
structure Counts where
  sent : Nat
  received : Nat
  reasons : List String
  deriving DecidableEq, Repr

def Counts.ofEvents (events : List TimedEvent) : Counts where
  sent := events.countP (·.event.isSent)
  received := events.countP (·.event.isReceived)
  reasons := events.filterMap (·.event.reason?)

namespace KindStats

/-- The statistics of a kind after one of its events. -/
def observe (window : Option Nat) (stats : KindStats) : Event → KindStats
  | .query .. => { stats with queries := stats.queries + 1 }
  | .sent .. => { stats with sent := stats.sent + 1 }
  | .received .. => { stats with received := stats.received + 1 }
  | .discarded _ _ reason => { stats with discarded := stats.discarded.count reason }
  | .attemptTimeout .. => stats
  | .exhausted .. => stats
  | .failed _ error =>
    if error.isNoResponse then { stats with noResponse := stats.noResponse + 1 }
    else { stats with transportErrors := stats.transportErrors + 1 }
  | .peerFailed _ => { stats with peerFailures := stats.peerFailures + 1 }
  | .answered _ roundTrip _ =>
    { stats with
      succeeded := stats.succeeded + 1
      roundTripsRev :=
        if 0 ≤ roundTrip then keepNewest window (roundTrip :: stats.roundTripsRev)
        else stats.roundTripsRev }

/-- The statistics of a kind with what an exchange adds to them. -/
def add (stats : KindStats) (counts : Counts) : KindStats :=
  { stats with
    sent := stats.sent + counts.sent
    received := stats.received + counts.received
    discarded := stats.discarded.countAll counts.reasons }

theorem add_nil (stats : KindStats) : stats.add (.ofEvents []) = stats := rfl

theorem add_observe {kind : String} {event : TimedEvent} (own : event.event.OfExchange kind)
    (window : Option Nat) (stats : KindStats) (events : List TimedEvent) :
    (stats.observe window event.event).add (.ofEvents events) =
      stats.add (.ofEvents (event :: events)) := by
  obtain ⟨time, event⟩ := event
  cases own with
  | sent =>
    simp [observe, add, Counts.ofEvents, Event.isSent, Event.isReceived, Event.reason?]
    omega
  | received =>
    simp [observe, add, Counts.ofEvents, Event.isSent, Event.isReceived, Event.reason?]
    omega
  | discarded =>
    simp [observe, add, Counts.ofEvents, Event.isSent, Event.isReceived, Event.reason?]
  | attemptTimeout =>
    simp [observe, add, Counts.ofEvents, Event.isSent, Event.isReceived, Event.reason?]
  | exhausted =>
    simp [observe, add, Counts.ofEvents, Event.isSent, Event.isReceived, Event.reason?]

end KindStats

namespace Metrics

variable {metrics : Metrics}

@[simp] theorem kind_fresh (now : Int) (name : String) : (fresh now).kind name = {} := by
  simp only [kind, fresh, Mapping.get?_cons]
  split
  · rfl
  · split <;> rfl

theorem kind_updateKind (metrics : Metrics) (name other : String) (f : KindStats → KindStats) :
    (metrics.updateKind name f).kind other =
      if other = name then f (metrics.kind other) else metrics.kind other := by
  simp only [kind, updateKind, Mapping.get?_update]
  split
  · rename_i same
    rw [same, Option.getD_some]
  · rfl

/-- Keeping a failure in the window changes no statistics. -/
@[simp] theorem kind_addFailure (metrics : Metrics) (now : Int) (kind : Option String)
    (error : QueryError) (name : String) :
    (metrics.addFailure now kind error).kind name = metrics.kind name := rfl

/-- Every event changes the statistics of its own kind. -/
theorem kind_observe (metrics : Metrics) (event : TimedEvent) (name : String) :
    (metrics.observe event).kind name =
      if name = event.event.kindName then
        (metrics.kind name).observe metrics.window event.event
      else metrics.kind name := by
  obtain ⟨time, event⟩ := event
  cases event with
  | query => exact kind_updateKind ..
  | sent => exact kind_updateKind ..
  | received => exact kind_updateKind ..
  | discarded => exact kind_updateKind ..
  | attemptTimeout => exact (ite_self _).symm
  | exhausted => exact (ite_self _).symm
  | failed kind error =>
    simp only [observe, recordFailure, kind_addFailure]
    exact kind_updateKind ..
  | peerFailed error =>
    simp only [observe, recordPeerFailure, kind_addFailure]
    exact kind_updateKind ..
  | answered => exact kind_updateKind ..

@[simp] theorem window_observe (metrics : Metrics) (event : TimedEvent) :
    (metrics.observe event).window = metrics.window := by
  obtain ⟨time, event⟩ := event
  cases event <;> rfl

end Metrics

namespace Record

variable {record : Record}

/-- The events of an exchange add what they count to the statistics of its kind. -/
theorem kind_observeAll {kind : String} {events : List TimedEvent}
    (own : ∀ event ∈ events, event.event.OfExchange kind) :
    (record.observeAll events).metrics.window = record.metrics.window ∧
      ∀ name, (record.observeAll events).metrics.kind name =
        if name = kind then (record.metrics.kind name).add (.ofEvents events)
        else record.metrics.kind name := by
  induction events generalizing record with
  | nil =>
    refine ⟨rfl, ?_⟩
    intro name
    rw [KindStats.add_nil, observeAll_nil, ite_self]
  | cons event events ih =>
    obtain ⟨window, kinds⟩ :=
      @ih (record.observe event) fun other mem => own other (List.mem_cons_of_mem _ mem)
    have first := own event List.mem_cons_self
    have next : (record.observe event).metrics = record.metrics.observe event := rfl
    rw [next] at window kinds
    refine ⟨window.trans (Metrics.window_observe _ _), ?_⟩
    intro name
    rw [observeAll_cons, kinds, Metrics.kind_observe, first.kindName_eq]
    by_cases same : name = kind
    · rw [if_pos same, if_pos same, if_pos same]
      exact KindStats.add_observe first _ _ _
    · rw [if_neg same, if_neg same, if_neg same]

end Record

/-- An event that a client takes note of adds to the statistics of its kind. -/
theorem Client.kind_observe (client : Client) {event : Event} {name : String}
    (own : event.kindName = name) :
    (client.observe event).record.metrics.kind name =
      (client.record.metrics.kind name).observe client.record.metrics.window event := by
  subst own
  exact (Metrics.kind_observe _ _ _).trans (if_pos rfl)

end NtpQuery
