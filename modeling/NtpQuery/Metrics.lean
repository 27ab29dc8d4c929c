import NtpQuery.Event

/-!
# Metrics

For each kind of query there are counters, which only grow, and a window of
the latest round-trip times. The latest failures are kept in a window of the
same size. A window without a size keeps everything.

A snapshot shows the counters, the share of successful queries in percent and
the mean, the median and the 95th percentile of the window. The percentile is
the largest sample as long as there are fewer than twenty. Rates are doubles;
a value computed from samples is whole where it is exact.
-/

namespace NtpQuery

structure KindStats where
  queries : Nat := 0
  succeeded : Nat := 0
  noResponse : Nat := 0
  transportErrors : Nat := 0
  peerFailures : Nat := 0
  sent : Nat := 0
  received : Nat := 0
  discarded : Mapping String Nat := []
  /-- The window of round-trip times in ms, newest first. -/
  roundTripsRev : List Int := []
  deriving DecidableEq, Repr, Inhabited

/-- A failed query of a kind, or a failed follow-up query, which has none. -/
structure RecentFailure where
  elapsedMs : Int
  kind : Option String
  error : String
  deriving DecidableEq, Repr, Inhabited

structure Metrics where
  /-- The size of the windows; none for windows without a limit. -/
  window : Option Nat := some 100
  /-- The monotonic clock at the start. -/
  started : Int := 0
  kinds : Mapping String KindStats := [("status", {}), ("time", {})]
  /-- The latest failures, newest first. -/
  failuresRev : List RecentFailure := []
  deriving Repr, Inhabited

/-- The newest elements of a list that has the newest first. -/
def keepNewest {α : Type} (window : Option Nat) (newestFirst : List α) : List α :=
  match window with
  | some size => newestFirst.take size
  | none => newestFirst

/-- Keeping the newest of what was kept before keeps the newest of all. -/
theorem keepNewest_cons_keepNewest {α : Type} (window : Option Nat) (a : α) (older : List α) :
    keepNewest window (a :: keepNewest window older) = keepNewest window (a :: older) := by
  cases window with
  | none => rfl
  | some size =>
    cases size with
    | zero => rfl
    | succ size =>
      simp only [keepNewest, List.take_succ_cons, List.take_take]
      rw [Nat.min_eq_left (Nat.le_succ size)]

namespace KindStats

/-- The largest of the samples; none without samples. -/
def largest? : List Int → Option Int
  | [] => none
  | x :: rest => some (rest.foldl max x)

def ascending (samples : List Int) : List Int :=
  sortBy (fun a b => decide (a ≤ b)) samples

/-- The position of the 95th percentile among `count` samples: 0.95 times the
count as doubles, without its fraction. -/
def p95Index (count : Nat) : Nat :=
  let share := Binary64.nearest false 95 100
  let scaled := (Binary64.mul (.ofInt count) share).truncate?
  min (scaled.getD 0).toNat (count - 1)

/-- The 95th percentile of the samples; none without samples. -/
def p95? (samples : List Int) : Option Int :=
  if samples.length < 20 then largest? samples
  else (ascending samples)[p95Index samples.length]?

def mean? (samples : List Int) : Option Number :=
  (Number.mean? (samples.map .whole)).map (·.roundTo 2)

def median? (samples : List Int) : Option Number :=
  match middle? (ascending samples) with
  | some (.one a) => some (.whole a)
  | some (.two a b) => (Number.halfSum? (.whole a) (.whole b)).map fun x => .real (x.roundTo 2)
  | none => none

/-- A share of queries in percent, with one decimal place. -/
def percentage (part whole : Nat) : Binary64 :=
  ((Binary64.nearest false part whole).mul (.ofInt 100)).roundTo 1

/-- The share of successful queries in percent; zero without queries. -/
def successRate (stats : KindStats) : Binary64 :=
  if stats.queries = 0 then .zero false else percentage stats.succeeded stats.queries

/-- A value computed from the window, as a record shows it: 0.0 without samples. -/
def windowValue (stats : KindStats) (value? : List Int → Option Number) : Except Failure Json :=
  if stats.roundTripsRev.isEmpty then .ok (.real (.zero false))
  else
    match value? stats.roundTripsRev.reverse with
    | some value => .ok (.number value)
    | none => .error .overflow

def countsRecord (counts : Mapping String Nat) : Json :=
  .object (counts.map fun (name, n) => (name, .whole n))

/-- The statistics of a kind as a record. -/
def record (stats : KindStats) (kind : String) : Except Failure Json := do
  let mean ← stats.windowValue mean?
  let median ← stats.windowValue median?
  let p95 ← stats.windowValue fun samples => (p95? samples).map .whole
  pure (.object
    [("kind", .text kind),
     ("queries", .whole stats.queries),
     ("succeeded", .whole stats.succeeded),
     ("no_response", .whole stats.noResponse),
     ("transport_errors", .whole stats.transportErrors),
     ("peer_failures", .whole stats.peerFailures),
     ("sent", .whole stats.sent),
     ("received", .whole stats.received),
     ("discarded", countsRecord stats.discarded),
     ("success_rate", .real stats.successRate),
     ("avg_rtt_ms", mean),
     ("median_rtt_ms", median),
     ("p95_rtt_ms", p95)])

end KindStats

def RecentFailure.record (failure : RecentFailure) : Json :=
  match failure.kind with
  | some kind =>
    .object
      [("time", .whole failure.elapsedMs), ("type", .text "failure"), ("kind", .text kind),
       ("error", .text failure.error)]
  | none =>
    .object
      [("time", .whole failure.elapsedMs), ("type", .text "peer_failure"),
       ("error", .text failure.error)]

namespace Metrics

/-- The largest window size that the machine can express. -/
def maxWindow : Int := 9223372036854775807

/-- Metrics without any event, with the given size of the windows. -/
def create (window : Option Int) (now : Int) : Except Failure Metrics :=
  match window with
  | none => .ok { window := none, started := now }
  | some size =>
    if size < -maxWindow - 1 ∨ maxWindow < size then .error .overflow
    else if size < 0 then .error .badValue
    else .ok { window := some size.toNat, started := now }

/-- Metrics with windows of a hundred elements. -/
def fresh (now : Int) : Metrics := { started := now }

/-- The statistics of a kind; zero when nothing of the kind has happened. -/
def kind (metrics : Metrics) (name : String) : KindStats :=
  (metrics.kinds.get? name).getD {}

def updateKind (metrics : Metrics) (name : String) (f : KindStats → KindStats) : Metrics :=
  { metrics with kinds := metrics.kinds.update name fun stats => f (stats.getD {}) }

def addFailure (metrics : Metrics) (now : Int) (kind : Option String) (error : QueryError) :
    Metrics :=
  { metrics with
    failuresRev := keepNewest metrics.window
      (⟨now - metrics.started, kind, error.message⟩ :: metrics.failuresRev) }

def recordQuery (metrics : Metrics) (kind : String) : Metrics :=
  metrics.updateKind kind fun s => { s with queries := s.queries + 1 }

def recordSent (metrics : Metrics) (kind : String) : Metrics :=
  metrics.updateKind kind fun s => { s with sent := s.sent + 1 }

def recordReceived (metrics : Metrics) (kind : String) : Metrics :=
  metrics.updateKind kind fun s => { s with received := s.received + 1 }

def recordDiscarded (metrics : Metrics) (kind reason : String) : Metrics :=
  metrics.updateKind kind fun s => { s with discarded := s.discarded.count reason }

/-- A negative round-trip time counts as a success and not as a sample. -/
def recordSuccess (metrics : Metrics) (kind : String) (roundTrip : Int) : Metrics :=
  metrics.updateKind kind fun s =>
    { s with
      succeeded := s.succeeded + 1
      roundTripsRev :=
        if 0 ≤ roundTrip then keepNewest metrics.window (roundTrip :: s.roundTripsRev)
        else s.roundTripsRev }

def recordFailure (metrics : Metrics) (now : Int) (kind : String) (error : QueryError)
    (noResponse : Bool) : Metrics :=
  (metrics.updateKind kind fun s =>
    if noResponse then { s with noResponse := s.noResponse + 1 }
    else { s with transportErrors := s.transportErrors + 1 }).addFailure now (some kind) error

def recordPeerFailure (metrics : Metrics) (now : Int) (error : QueryError) : Metrics :=
  (metrics.updateKind QueryKind.status.name fun s =>
    { s with peerFailures := s.peerFailures + 1 }).addFailure now none error

/-- Counts an event. Attempts that ended without a response are not counted;
their queries are. -/
def observe (metrics : Metrics) (event : TimedEvent) : Metrics :=
  match event.event with
  | .query kind .. => metrics.recordQuery kind
  | .sent kind .. => metrics.recordSent kind
  | .received kind .. => metrics.recordReceived kind
  | .discarded kind _ reason => metrics.recordDiscarded kind reason
  | .attemptTimeout .. | .exhausted .. => metrics
  | .failed kind error => metrics.recordFailure event.time kind error error.isNoResponse
  | .peerFailed error => metrics.recordPeerFailure event.time error
  | .answered kind roundTrip _ => metrics.recordSuccess kind roundTrip

def total (metrics : Metrics) (counter : KindStats → Nat) : Nat :=
  metrics.kinds.foldr (fun (_, stats) sum => counter stats + sum) 0

/-- The statistics of all kinds as records. -/
def kindRecords : Mapping String KindStats → Except Failure (List (String × Json))
  | [] => .ok []
  | (name, stats) :: rest =>
    match stats.record name with
    | .error failure => .error failure
    | .ok record => (kindRecords rest).map ((name, record) :: ·)

/-- All statistics at a time of the monotonic clock. -/
def snapshot (metrics : Metrics) (now : Int) : Except Failure Json :=
  let queries := metrics.total (·.queries)
  let succeeded := metrics.total (·.succeeded)
  (kindRecords metrics.kinds).map fun kinds =>
    .object
      [("elapsed_ms", .whole (now - metrics.started)),
       ("total", .object
         [("queries", .whole queries),
          ("succeeded", .whole succeeded),
          ("success_rate", .real (KindStats.percentage succeeded (max 1 queries)))]),
       ("by_kind", .object kinds)]

/-- The last failures in order: `count` of them, or all for zero. A negative
count leaves out that many of the oldest instead. -/
def recentFailures (metrics : Metrics) (count : Int) : List RecentFailure :=
  let failures := metrics.failuresRev.reverse
  if count = 0 then failures
  else if 0 < count then failures.drop (failures.length - count.toNat)
  else failures.drop count.natAbs

end Metrics

end NtpQuery
