import NtpQuery.Proofs.EventLog.Entry

/-!
# What a log keeps

Events, custom events and summaries are given to a log in any order, with
`flush` in between. As long as the log is open, its file of events has the first
records as its lines, and the rest is buffered; there is always room for one
more. When the log is closed, the file has every record once, in the order in
which they were logged. So neither the size of the buffer nor `flush` has an
influence on the files that are left. All this is about records that can be
written, without numbers of too many digits.

What goes to a closed log is counted and buffered, and reaches no file.
-/

namespace NtpQuery

/-! ### Files of records -/

namespace LogFiles

theorem mapM_parseLine {records : List Json}
    (reads : ∀ record ∈ records, Json.parse record.print = .ok record) :
    (records.map fun record => record.print.toList).mapM parseLine = .ok records := by
  induction records with
  | nil => rfl
  | cons record records ih =>
    rw [List.map_cons, List.mapM_cons, parseLine_of_parse (reads record List.mem_cons_self),
      ih fun other mem => reads other (List.mem_cons_of_mem _ mem)]
    rfl

theorem contains_cons_append {part : List Char} (c : Char) (rest : List Char) :
    contains part (c :: (part ++ rest)) = true := by
  have front : contains part (part ++ rest) = true := by
    cases part with
    | nil => cases rest <;> simp [contains]
    | cons d part => simp [contains]
  rw [contains, front, Bool.or_true]

end LogFiles

namespace EventLog

theorem isSummaryLine_summaryEntry (sessionId : String) (started time : Int) (date : DateTime)
    (count : Nat) (stats : Json) :
    LogFiles.isSummaryLine
      (summaryEntry sessionId started time date count stats).print.toList = true := by
  have type : ("\"type\":\"summary\"".toList : List Char) =
      (Json.quotedText "type").toList ++ ':' :: (Json.text "summary").print.toList := by
    decide +kernel
  rw [LogFiles.isSummaryLine, summaryEntry, Json.toList_print_object, List.map_cons,
    List.map_cons, Json.joined_cons_cons, List.append_assoc, type]
  exact LogFiles.contains_cons_append _ _

theorem plain_summaryEntry {started time : Int} {count : Nat} {stats : Json}
    (duration : (time - started).natAbs < 10 ^ Text.Numeral.maxDigits)
    (events : count < 10 ^ Text.Numeral.maxDigits) (plain : stats.Plain (Json.maxDepth - 1))
    (sessionId : String) (date : DateTime) :
    (summaryEntry sessionId started time date count stats).Plain Json.maxDepth := by
  refine .object (by simp) ?_
  simp only [List.mem_cons, List.not_mem_nil, or_false, forall_eq_or_imp, forall_eq]
  exact ⟨.text, .text, .text, .whole duration, .whole events, plain⟩

/-! ### Calls of a log -/

/-- What can be done with a log. -/
inductive Act where
  | note (event : TimedEvent)
  | custom (time : Int) (type : String) (data : Members)
  | summary (time wallMs : Int) (stats : Json)
  | flush
  | close
  deriving Repr, Inhabited

/-- The record that is logged, if one is. -/
def Act.record? : Act → Option Json
  | .note event => some (entryOf event)
  | .custom time type data =>
    if data.any fun (name, _) => reservedNames.contains name then none
    else some (entry type time data)
  | .summary .. => none
  | .flush => none
  | .close => none

/-- The records that are logged, in order. -/
def recorded (acts : List Act) : List Json :=
  acts.filterMap Act.record?

/-- Whether a summary is logged. There is none for a wall clock that tells no date. -/
def Act.isSummary : Act → Bool
  | .summary _ wallMs _ => (DateTime.ofUnixMs? wallMs).isSome
  | _ => false

theorem recorded_cons (act : Act) (acts : List Act) :
    recorded (act :: acts) = act.record?.toList ++ recorded acts := by
  rw [recorded, List.filterMap_cons]
  cases act.record? <;> rfl

variable (log : EventLog)

def act : Act → Except Failure Unit × EventLog
  | .note event => log.observe event
  | .custom time type data => log.addCustom time type data
  | .summary time wallMs stats => log.addSummary time wallMs stats
  | .flush => log.flush
  | .close => log.close

/-- A log after some calls, whatever they answer. -/
def actAll (acts : List Act) : EventLog :=
  acts.foldl (fun log act => (log.act act).2) log

@[simp] theorem actAll_cons (act : Act) (acts : List Act) :
    log.actAll (act :: acts) = (log.act act).2.actAll acts := rfl

theorem actAll_append (acts others : List Act) :
    log.actAll (acts ++ others) = (log.actAll acts).actAll others :=
  List.foldl_append

/-- Flushing writes the buffer, whatever it answers. -/
theorem flush_eq : log.flush.2 = log.writeBuffer.2 := by
  unfold flush
  cases written : log.writeBuffer with
  | mk result next =>
    cases result with
    | error failure => rfl
    | ok done => dsimp only; split <;> rfl

/-- A log that is flushed is closed, unless flushing fails. -/
theorem close_eq :
    log.close.2 = log.flush.2 ∨ log.close.2 = { log.flush.2 with closed := true } := by
  unfold close
  cases flushed : log.flush with
  | mk result next =>
    cases result with
    | error failure => exact .inl rfl
    | ok done => exact .inr rfl

/-! ### The balance -/

/-- Records are logged behind those that are there, and are counted. -/
structure Extends (log next : EventLog) (added : List Json) : Prop where
  records : next.records = log.records ++ added
  count : next.count = log.count + added.length
  sessionId : next.sessionId = log.sessionId
  bufferSize : next.bufferSize = log.bufferSize
  started : next.started = log.started

namespace Extends

variable {log} {next last : EventLog} {added others : List Json}

theorem refl : log.Extends log [] := by
  constructor <;> simp

theorem trans (first : log.Extends next added) (second : next.Extends last others) :
    log.Extends last (added ++ others) where
  records := by rw [second.records, first.records, List.append_assoc]
  count := by rw [second.count, first.count, List.length_append, Nat.add_assoc]
  sessionId := second.sessionId.trans first.sessionId
  bufferSize := second.bufferSize.trans first.bufferSize
  started := second.started.trans first.started

end Extends

theorem extends_writeBuffer : log.Extends log.writeBuffer.2 [] := by
  have records := records_writeBuffer log
  obtain ⟨_, _, moved⟩ := writeBuffer_moves log
  rw [moved] at records ⊢
  exact ⟨records.trans (List.append_nil _).symm, rfl, rfl, rfl, rfl⟩

theorem extends_add (record : Json) : log.Extends (log.add record).2 [record] := by
  have records := records_add log record
  obtain ⟨_, _, moved⟩ := add_moves log record
  rw [moved] at records ⊢
  exact ⟨records, rfl, rfl, rfl, rfl⟩

theorem extends_flush : log.Extends log.flush.2 [] := by
  rw [flush_eq]
  exact log.extends_writeBuffer

theorem extends_close : log.Extends log.close.2 [] := by
  obtain ⟨records, count, sessionId, bufferSize, started⟩ := log.extends_flush
  rcases log.close_eq with same | closed
  · rw [same]
    exact log.extends_flush
  · rw [closed]
    exact ⟨records, count, sessionId, bufferSize, started⟩

theorem extends_addSummary (time wallMs : Int) (stats : Json) :
    log.Extends (log.addSummary time wallMs stats).2 [] := by
  unfold addSummary
  split
  · exact .refl
  · dsimp only
    split
    · exact .refl
    · constructor <;> simp [EventLog.records]

/-- Each call logs its record, if it has one, also when it fails. -/
theorem extends_act (act : Act) : log.Extends (log.act act).2 act.record?.toList := by
  cases act with
  | note event => exact log.extends_add _
  | custom time type data =>
    rw [EventLog.act, addCustom, Act.record?]
    split
    · exact .refl
    · exact log.extends_add _
  | summary time wallMs stats => exact log.extends_addSummary time wallMs stats
  | flush => exact log.extends_flush
  | close => exact log.extends_close

theorem extends_actAll (acts : List Act) : log.Extends (log.actAll acts) (recorded acts) := by
  induction acts generalizing log with
  | nil => exact .refl
  | cons act acts ih =>
    rw [recorded_cons]
    exact (log.extends_act act).trans (ih _)

theorem length_records : log.records.length = log.bufferRev.length + log.writtenRev.length := by
  rw [records, List.length_reverse, List.length_append]

/-! ### What can be written -/

/-- What is in the file of events could be written. -/
def Written : Prop :=
  ∀ record ∈ log.writtenRev, record.isWritable = true

section

variable {log}

theorem Written.writeBuffer (written : log.Written) : log.writeBuffer.2.Written := by
  unfold EventLog.writeBuffer
  split
  · exact written
  · split
    · exact written
    · rename_i writes
      rw [Bool.not_eq_true, Bool.or_eq_false_iff, Bool.not_eq_false'] at writes
      exact List.forall_mem_append.mpr ⟨List.all_eq_true.mp writes.2, written⟩

theorem Written.add (written : log.Written) (record : Json) : (log.add record).2.Written := by
  unfold EventLog.add
  dsimp only
  split
  · exact written
  · split
    · exact Written.writeBuffer written
    · exact written

theorem Written.isLegible_iff (written : log.Written) :
    log.IsLegible ↔ ∀ record ∈ log.bufferRev, record.isWritable = true := by
  simp only [IsLegible, EventLog.records, List.mem_reverse]
  rw [List.forall_mem_append]
  exact and_iff_left written

/-- An open log can be closed exactly when all of its records can be written. -/
theorem Written.close_ok_iff (written : log.Written) (isOpen : log.closed = false) :
    log.close.1 = .ok () ↔ log.IsLegible :=
  (close_spec isOpen).1.trans written.isLegible_iff.symm

theorem Written.close_refused (written : log.Written) (isOpen : log.closed = false)
    (illegible : ¬ log.IsLegible) : log.close.1 = .error .badValue := by
  rcases close_cases isOpen with ⟨writable, -⟩ | ⟨-, refused⟩
  · exact absurd (written.isLegible_iff.mpr writable) illegible
  · exact refused

theorem IsLegible.of_records {next : EventLog} (legible : log.IsLegible) {record : Json}
    (records : next.records = log.records ++ [record]) (writable : record.isWritable = true) :
    next.IsLegible := by
  rw [IsLegible, records, List.forall_mem_append, List.forall_mem_singleton]
  exact ⟨legible, writable⟩

/-- A log with all its records legible takes one more that is. -/
theorem IsLegible.add (legible : log.IsLegible) (isOpen : log.closed = false)
    (sized : log.bufferSize.isSome) {record : Json} (writable : record.isWritable = true) :
    (log.add record).1 = .ok () ∧ (log.add record).2.IsLegible := by
  refine ⟨?_, legible.of_records (log.records_add record) writable⟩
  obtain ⟨size, given⟩ := Option.isSome_iff_exists.mp sized
  have all : ∀ other ∈ record :: log.bufferRev, other.isWritable = true := by
    refine List.forall_mem_cons.mpr ⟨writable, fun other mem => legible other ?_⟩
    rw [records, List.mem_reverse]
    exact List.mem_append_left _ mem
  rw [EventLog.add, given]
  dsimp only
  split
  · rw [writeBuffer_of_open (by exact isOpen) (by exact all)]
  · rfl

end

/-! ### Summaries -/

/-- Only summaries change the file of summaries. -/
theorem summariesRev_act {act : Act} (other : act.isSummary = false) :
    (log.act act).2.summariesRev = log.summariesRev := by
  cases act with
  | note event => exact log.summariesRev_add _
  | custom time type data =>
    rw [EventLog.act, addCustom]
    split
    · rfl
    · exact log.summariesRev_add _
  | summary time wallMs stats =>
    rw [Act.isSummary, Option.isSome_eq_false_iff, Option.isNone_iff_eq_none] at other
    rw [EventLog.act, EventLog.addSummary, other]
  | flush => rw [EventLog.act, flush_eq, summariesRev_writeBuffer]
  | close =>
    rw [EventLog.act]
    rcases log.close_eq with same | closed
    · rw [same, flush_eq, summariesRev_writeBuffer]
    · rw [closed, flush_eq]
      exact log.summariesRev_writeBuffer

theorem summariesRev_actAll {acts : List Act} (others : ∀ act ∈ acts, act.isSummary = false) :
    (log.actAll acts).summariesRev = log.summariesRev := by
  induction acts generalizing log with
  | nil => rfl
  | cons act acts ih =>
    rw [List.forall_mem_cons] at others
    rw [actAll_cons, ih _ others.2, log.summariesRev_act others.1]

/-! ### An open log -/

/-- Nothing but closing closes a log. -/
theorem closed_act {act : Act} (goesOn : act ≠ .close) : (log.act act).2.closed = log.closed := by
  cases act with
  | note event => exact log.closed_add _
  | custom time type data =>
    rw [EventLog.act, addCustom]
    split
    · rfl
    · exact log.closed_add _
  | summary time wallMs stats =>
    rw [EventLog.act, addSummary]
    split
    · rfl
    · dsimp only
      split <;> rfl
  | flush => rw [EventLog.act, flush_eq, closed_writeBuffer]
  | close => exact absurd rfl goesOn

theorem closed_actAll {acts : List Act} (goesOn : ∀ act ∈ acts, act ≠ .close) :
    (log.actAll acts).closed = log.closed := by
  induction acts generalizing log with
  | nil => rfl
  | cons act acts ih =>
    rw [List.forall_mem_cons] at goesOn
    rw [actAll_cons, ih _ goesOn.2, log.closed_act goesOn.1]

/-- A log that is open, with room for another record in its buffer, where all can be written, and
nothing but summaries in the file of summaries. -/
structure Roomy (size : Int) : Prop where
  isOpen : log.closed = false
  bufferSize : log.bufferSize = some size
  room : (log.bufferRev.length : Int) < max 1 size
  writable : ∀ record ∈ log.bufferRev, record.isWritable = true
  summaries : ∀ record ∈ log.summariesRev, LogFiles.isSummaryLine record.print.toList = true

section

variable {log} {size : Int}

theorem flush_of_open (isOpen : log.closed = false)
    (writable : ∀ record ∈ log.bufferRev, record.isWritable = true) :
    log.flush = (.ok (),
      { log with bufferRev := [], writtenRev := log.bufferRev ++ log.writtenRev }) := by
  rw [flush, writeBuffer_of_open isOpen writable]
  simp [isOpen]

theorem close_of_open (isOpen : log.closed = false)
    (writable : ∀ record ∈ log.bufferRev, record.isWritable = true) :
    log.close = (.ok (),
      { log with
        bufferRev := []
        writtenRev := log.bufferRev ++ log.writtenRev
        closed := true }) := by
  rw [close, flush_of_open isOpen writable]

theorem addSummary_of_open (isOpen : log.closed = false) {time wallMs : Int} {date : DateTime}
    {stats : Json} (told : DateTime.ofUnixMs? wallMs = some date)
    (writable :
      (summaryEntry log.sessionId log.started time date log.count stats).isWritable = true) :
    log.addSummary time wallMs stats = (.ok (),
      { log with
        summariesRev :=
          summaryEntry log.sessionId log.started time date log.count stats ::
            log.summariesRev }) := by
  rw [addSummary, told]
  simp [isOpen, writable]

/-- A summary is written as such, or the log is left as it is. -/
theorem addSummary_cases (log : EventLog) (time wallMs : Int) (stats : Json) :
    (∃ date, DateTime.ofUnixMs? wallMs = some date ∧
      log.addSummary time wallMs stats = (.ok (),
        { log with
          summariesRev :=
            summaryEntry log.sessionId log.started time date log.count stats ::
              log.summariesRev })) ∨
      ∃ failure, log.addSummary time wallMs stats = (.error failure, log) := by
  unfold addSummary
  split
  · exact .inr ⟨_, rfl⟩
  · rename_i date told
    dsimp only
    split
    · exact .inr ⟨_, rfl⟩
    · exact .inl ⟨date, told, rfl⟩

namespace Roomy

theorem add (roomy : log.Roomy size) {record : Json} (writable : record.isWritable = true) :
    (log.add record).1 = .ok () ∧ (log.add record).2.Roomy size := by
  obtain ⟨isOpen, bufferSize, room, earlier, summaries⟩ := roomy
  have all : ∀ other ∈ record :: log.bufferRev, other.isWritable = true :=
    List.forall_mem_cons.mpr ⟨writable, earlier⟩
  rw [EventLog.add, bufferSize]
  dsimp only
  split
  · rw [writeBuffer_of_open (by exact isOpen) (by exact all)]
    exact ⟨rfl, isOpen, rfl, by simp only [List.length_nil]; omega, by simp, summaries⟩
  · rename_i fits
    exact ⟨rfl, isOpen, rfl, by simp only; omega, all, summaries⟩

theorem flush (roomy : log.Roomy size) : log.flush.2.Roomy size := by
  rw [flush_of_open roomy.isOpen roomy.writable]
  exact ⟨roomy.isOpen, roomy.bufferSize, by simp only [List.length_nil]; omega, by simp,
    roomy.summaries⟩

theorem addSummary (roomy : log.Roomy size) (time wallMs : Int) (stats : Json) :
    (log.addSummary time wallMs stats).2.Roomy size := by
  rcases log.addSummary_cases time wallMs stats with ⟨date, -, written⟩ | ⟨failure, refused⟩
  · rw [written]
    refine ⟨roomy.isOpen, roomy.bufferSize, roomy.room, roomy.writable, ?_⟩
    intro record mem
    rcases List.mem_cons.mp mem with rfl | mem
    · exact isSummaryLine_summaryEntry ..
    · exact roomy.summaries record mem
  · rw [refused]
    exact roomy

theorem act (roomy : log.Roomy size) {act : Act} (goesOn : act ≠ .close)
    (writable : ∀ record ∈ act.record?, record.isWritable = true) :
    (log.act act).2.Roomy size := by
  cases act with
  | note event => exact (roomy.add (writable _ rfl)).2
  | custom time type data =>
    rw [Act.record?] at writable
    rw [EventLog.act, addCustom]
    split
    · exact roomy
    · rename_i free
      rw [if_neg free] at writable
      exact (roomy.add (writable _ rfl)).2
  | summary time wallMs stats => exact roomy.addSummary time wallMs stats
  | flush => exact roomy.flush
  | close => exact absurd rfl goesOn

theorem actAll (roomy : log.Roomy size) {acts : List Act} (goesOn : ∀ act ∈ acts, act ≠ .close)
    (writable : ∀ record ∈ recorded acts, record.isWritable = true) :
    (log.actAll acts).Roomy size := by
  induction acts generalizing log with
  | nil => exact roomy
  | cons act acts ih =>
    rw [recorded_cons, List.forall_mem_append] at writable
    rw [List.forall_mem_cons] at goesOn
    rw [actAll_cons]
    exact ih (roomy.act goesOn.1 fun record told => writable.1 record (by simpa using told))
      goesOn.2 writable.2

/-- The last of the summaries tells how many events were logged before it. -/
theorem summariesRev_last (roomy : log.Roomy size) {before after : List Act}
    {time wallMs : Int} {stats : Json} {date : DateTime}
    (goesOn : ∀ act ∈ before ++ .summary time wallMs stats :: after, act ≠ .close)
    (others : ∀ act ∈ after, act.isSummary = false)
    (told : DateTime.ofUnixMs? wallMs = some date)
    (writable : (summaryEntry log.sessionId log.started time date
      (log.count + (recorded before).length) stats).isWritable = true) :
    (log.actAll (before ++ .summary time wallMs stats :: after)).summariesRev.head? =
      some (summaryEntry log.sessionId log.started time date
        (log.count + (recorded before).length) stats) := by
  rw [List.forall_mem_append] at goesOn
  have earlier := log.extends_actAll before
  have isOpen : (log.actAll before).closed = false :=
    (log.closed_actAll goesOn.1).trans roomy.isOpen
  rw [← earlier.count, ← earlier.sessionId, ← earlier.started] at writable
  rw [actAll_append, actAll_cons, summariesRev_actAll _ others, EventLog.act,
    addSummary_of_open isOpen told writable, earlier.sessionId, earlier.started, earlier.count]
  rfl

end Roomy

/-- The last summary of the file is the one that was logged last. -/
theorem lastSummary_files
    (summaries : ∀ record ∈ log.summariesRev,
      LogFiles.isSummaryLine record.print.toList = true) :
    log.files.lastSummary =
      match log.summariesRev.head? with
      | some record => LogFiles.parseLine record.print.toList
      | none => .ok (.object []) := by
  have lines : (log.files.summaryText.map LogFiles.lines).getD [] =
      log.summariesRev.reverse.map fun record => record.print.toList := by
    rw [files, summaryLines, ← List.map_reverse]
    exact LogFiles.lines_print _
  rw [LogFiles.lastSummary, lines, List.filter_eq_self.mpr]
  · rw [List.getLast?_map, List.getLast?_reverse]
    cases log.summariesRev.head? <;> rfl
  · intro line mem
    obtain ⟨record, written, rfl⟩ := List.mem_map.mp mem
    exact summaries record (List.mem_reverse.mp written)

/-! ### A closed log -/

theorem writeBuffer_of_closed (isClosed : log.closed = true) : log.writeBuffer.2 = log := by
  rw [writeBuffer, isClosed, Bool.true_or, if_pos rfl]
  split <;> rfl

theorem flush_of_closed (isClosed : log.closed = true) : log.flush.2 = log := by
  rw [flush_eq, writeBuffer_of_closed isClosed]

theorem close_of_closed (isClosed : log.closed = true) : log.close.2 = log := by
  rcases log.close_eq with same | closed
  · rw [same, flush_of_closed isClosed]
  · rw [closed, flush_of_closed isClosed, ← isClosed]

/-- A log that keeps its files as they are, and buffers what it is given. -/
structure Shut (log next : EventLog) (added : List Json) : Prop where
  closed : next.closed = true
  writtenRev : next.writtenRev = log.writtenRev
  summariesRev : next.summariesRev = log.summariesRev
  bufferRev : next.bufferRev = added.reverse ++ log.bufferRev
  count : next.count = log.count + added.length

theorem Shut.trans {next last : EventLog} {added others : List Json}
    (first : log.Shut next added) (second : next.Shut last others) :
    log.Shut last (added ++ others) where
  closed := second.closed
  writtenRev := second.writtenRev.trans first.writtenRev
  summariesRev := second.summariesRev.trans first.summariesRev
  bufferRev := by
    rw [second.bufferRev, first.bufferRev, List.reverse_append, List.append_assoc]
  count := by rw [second.count, first.count, List.length_append, Nat.add_assoc]

theorem shut_of_eq {next : EventLog} (isClosed : log.closed = true) (same : next = log) :
    log.Shut next [] := by
  subst same
  exact ⟨isClosed, rfl, rfl, rfl, rfl⟩

theorem shut_add (isClosed : log.closed = true) (record : Json) :
    log.Shut (log.add record).2 [record] := by
  have taken : log.Shut
      { log with bufferRev := record :: log.bufferRev, count := log.count + 1 } [record] :=
    ⟨isClosed, rfl, rfl, rfl, rfl⟩
  rw [add]
  dsimp only
  split
  · exact taken
  · split
    · exact taken.trans (shut_of_eq taken.closed (writeBuffer_of_closed taken.closed))
    · exact taken

theorem shut_act (isClosed : log.closed = true) (act : Act) :
    log.Shut (log.act act).2 act.record?.toList := by
  cases act with
  | note event => exact shut_add isClosed _
  | custom time type data =>
    rw [EventLog.act, addCustom, Act.record?]
    split
    · exact shut_of_eq isClosed rfl
    · exact shut_add isClosed _
  | summary time wallMs stats =>
    rw [EventLog.act, addSummary, isClosed]
    split
    · exact shut_of_eq isClosed rfl
    · exact shut_of_eq isClosed rfl
  | flush => exact shut_of_eq isClosed (flush_of_closed isClosed)
  | close => exact shut_of_eq isClosed (close_of_closed isClosed)

theorem shut_actAll (isClosed : log.closed = true) (acts : List Act) :
    log.Shut (log.actAll acts) (recorded acts) := by
  induction acts generalizing log with
  | nil => exact shut_of_eq isClosed rfl
  | cons act acts ih =>
    have first := shut_act isClosed act
    rw [recorded_cons]
    exact first.trans (ih first.closed)

end

/-! ### The files -/

/-- What a log keeps of the records that were logged while it is open. -/
structure Keeps (size : Int) (logged : List Json) : Prop where
  count : log.count = logged.length
  buffered : log.bufferRev.length ≤ log.count
  room : (log.bufferRev.length : Int) < max 1 size
  lines : log.files.eventLines = (logged.take (log.count - log.bufferRev.length)).map
    fun record => record.print.toList
  takes : ∀ record, record.isWritable = true → (log.add record).1 = .ok ()
  flushes : log.flush.1 = .ok () ∧ log.flush.2.bufferRev = []
  closes : log.close.1 = .ok ()

/-- What is left of the calls of a session when its log is closed. -/
structure Leaves (sessionId : String) (started : Int) (acts : List Act) : Prop where
  text : log.files.eventsText = some (fileText ((recorded acts).map Json.print))
  events : (∀ record ∈ recorded acts, Json.parse record.print = .ok record) →
    log.files.events = .ok (recorded acts)
  summary : ∀ before time wallMs stats after date,
    acts = before ++ .summary time wallMs stats :: after →
    (∀ act ∈ after, act.isSummary = false) → DateTime.ofUnixMs? wallMs = some date →
    let last := summaryEntry sessionId started time date (recorded before).length stats
    last.isWritable = true → Json.parse last.print = .ok last →
      log.files.lastSummary = .ok last
  noSummary : (∀ act ∈ acts, act.isSummary = false) → log.files.lastSummary = .ok (.object [])
  afterwards : ∀ later, (log.actAll later).files = log.files ∧
    (log.actAll later).count = (recorded acts).length + (recorded later).length ∧
    (log.actAll later).bufferRev.length = (recorded later).length

variable {log} {size : Int}

theorem Roomy.keeps (roomy : log.Roomy size) {logged : List Json}
    (records : log.records = logged) (count : log.count = logged.length) :
    log.Keeps size logged := by
  have length := log.length_records
  rw [records, ← count] at length
  refine ⟨count, by omega, roomy.room, ?_, fun _ writable => (roomy.add writable).1, ?_, ?_⟩
  · rw [eventLines_files, length, Nat.add_sub_cancel_left, ← records, EventLog.records,
      List.reverse_append, ← List.length_reverse, List.take_left]
  · rw [flush_of_open roomy.isOpen roomy.writable]
    exact ⟨rfl, rfl⟩
  · rw [close_of_open roomy.isOpen roomy.writable]

/-- Every record is kept once, in the order of the calls, whatever the size of the buffer and
wherever the log is flushed. -/
theorem keeps_recorded (sessionId : String) (size started : Int) (acts : List Act)
    (goesOn : ∀ act ∈ acts, act ≠ .close)
    (writable : ∀ record ∈ recorded acts, record.isWritable = true) :
    let log := actAll { sessionId, bufferSize := some size, started } acts
    log.Keeps size (recorded acts) ∧ log.close.2.Leaves sessionId started acts := by
  intro log
  have opened : Roomy { sessionId, bufferSize := some size, started } size :=
    ⟨rfl, rfl, by simp only [List.length_nil]; omega, by simp, by simp⟩
  have roomy : log.Roomy size := opened.actAll goesOn writable
  have logged := extends_actAll { sessionId, bufferSize := some size, started } acts
  have count : log.count = (recorded acts).length := logged.count.trans (Nat.zero_add _)
  have closed := close_of_open roomy.isOpen roomy.writable
  have written : log.close.2.writtenRev.reverse = recorded acts := by
    rw [(close_spec roomy.isOpen).2 (congrArg Prod.fst closed), List.reverse_reverse]
    exact logged.records
  have lastSummary : log.close.2.files.lastSummary = _ :=
    lastSummary_files (by rw [closed]; exact roomy.summaries)
  have summaries : log.close.2.summariesRev = log.summariesRev := by rw [closed]
  refine ⟨roomy.keeps logged.records count, ?_, ?_, ?_, ?_, ?_⟩
  · rw [eventsText_files, written]
  · intro reads
    rw [LogFiles.events, eventLines_files, written]
    exact LogFiles.mapM_parseLine reads
  · rintro before time wallMs stats after date rfl others told last writes reads
    have kept : log.summariesRev.head? = some last := by
      rw [opened.summariesRev_last goesOn others told]
      · simp [last]
      · simpa [last] using writes
    rw [lastSummary, summaries, kept]
    exact LogFiles.parseLine_of_parse reads
  · intro others
    have none : log.summariesRev = [] := summariesRev_actAll _ others
    rw [lastSummary, summaries, none]
    rfl
  · intro later
    have shut := shut_actAll (by rw [closed] : log.close.2.closed = true) later
    refine ⟨by rw [files, eventLines, summaryLines, shut.writtenRev, shut.summariesRev]; rfl,
      ?_, ?_⟩
    · rw [shut.count, closed, ← count]
    · rw [shut.bufferRev, closed, List.append_nil, List.length_reverse]

/-- Records with line ends and text that looks like a summary, a summary between them, and a record
that is still buffered when the log is closed. -/
theorem keeps_recorded_lookalike :
    let event : TimedEvent := ⟨5, .query "time" ⟨"line\nend", 123⟩ 2 2000⟩
    let data : Members := [("text", .text "\x7b\"type\":\"summary\"\x7d\n"), ("on", .bool true)]
    let stats : Json := .object [("kinds", .list [.null, .text "time"])]
    let acts : List Act :=
      [.note event, .custom 6 "note" data, .summary 7 1700000000000 stats, .custom 8 "late" []]
    let log := actAll { sessionId := "queries", bufferSize := some 2 } acts
    ∃ date, DateTime.ofUnixMs? 1700000000000 = some date ∧
      log.Keeps 2 (recorded acts) ∧
      log.close.2.files.events = .ok [entryOf event, entry "note" 6 data, entry "late" 8 []] ∧
      log.close.2.files.lastSummary = .ok (summaryEntry "queries" 0 7 date 2 stats) := by
  intro event data stats acts log
  obtain ⟨date, told⟩ := Option.isSome_iff_exists.mp
    (by decide : (DateTime.ofUnixMs? 1700000000000).isSome = true)
  have writable : ∀ record ∈ recorded acts, record.isWritable = true := by decide +kernel
  obtain ⟨keeps, leaves⟩ := keeps_recorded "queries" 2 0 acts (by simp [acts]) writable
  refine ⟨date, told, keeps, leaves.events ?_, ?_⟩
  · have first : (entryOf event).IsRecord := isRecord_entryOf trivial (by decide +kernel)
    have second : (entry "note" 6 data).IsRecord := by
      refine isRecord_entry (by simp [data]) ?_ (by decide +kernel)
      simp [data, Json.Plain.text, Json.Plain.bool]
    have third : (entry "late" 8 []).IsRecord :=
      isRecord_entry (by simp) (by simp) (by decide +kernel)
    show ∀ record ∈ [entryOf event, entry "note" 6 data, entry "late" 8 []], _
    simp only [List.forall_mem_cons]
    exact ⟨Json.parse_print first.1, Json.parse_print second.1, Json.parse_print third.1, by simp⟩
  · refine leaves.summary [_, _] 7 1700000000000 _ [_] date rfl (by simp [Act.isSummary]) told ?_ ?_
    · have short : ∀ n ∈ [(7 : Int), 2], n.natAbs < 10 ^ Text.Numeral.maxDigits := by
        decide +kernel
      exact Json.isWritable_iff.mpr short
    apply Json.parse_print
    apply plain_summaryEntry (by decide +kernel) (by decide +kernel)
    refine .object (by simp) ?_
    simp only [List.mem_cons, List.not_mem_nil, or_false, forall_eq]
    exact .list (by simp [Json.Plain.null, Json.Plain.text])

end EventLog

end NtpQuery
