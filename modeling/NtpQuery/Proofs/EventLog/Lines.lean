import NtpQuery.EventLog.Reader
import NtpQuery.Proofs.Json.Visible

/-!
# The lines of a log

A log that is closed has written every record that it was given, each on a line
of its own; with a record that cannot be written it cannot be closed. Reading
the file takes the lines apart again, and each of them is the record that was
written. So whatever is computed from the lines of a file is computed from the
records of the log.
-/

namespace NtpQuery

/-- A record that can be read back. -/
def Json.IsRecord (record : Json) : Prop :=
  record.Plain Json.maxDepth ∧ ∃ members, record = .object members

namespace LogFiles

theorem withLineFeeds_of_not_mem {text : List Char} (clean : '\r' ∉ text) :
    withLineFeeds text = text := by
  induction text with
  | nil => rfl
  | cons c rest ih =>
    rw [List.mem_cons, not_or] at clean
    rw [withLineFeeds, ih clean.2]
    · rintro _ rfl _
      exact clean.1 rfl
    · rintro rfl
      exact clean.1 rfl

theorem toList_fileText (lines : List String) :
    (EventLog.fileText lines).toList = lines.flatMap fun line => line.toList ++ ['\n'] := by
  rw [EventLog.fileText, String.toList_join, List.flatMap_map]
  simp

theorem split_fileText {lines : List String} (clean : ∀ line ∈ lines, '\n' ∉ line.toList) :
    Text.split '\n' (EventLog.fileText lines).toList = lines.map String.toList ++ [[]] := by
  rw [toList_fileText]
  induction lines with
  | nil => rfl
  | cons line lines ih =>
    rw [List.flatMap_cons, List.append_assoc, List.singleton_append, Text.split_append_cons,
      Text.split_eq_singleton (clean line List.mem_cons_self),
      ih fun other mem => clean other (List.mem_cons_of_mem _ mem)]
    rfl

/-- The lines of a file are those that it was written with. -/
theorem lines_fileText {lines : List String}
    (clean : ∀ line ∈ lines, '\n' ∉ line.toList ∧ '\r' ∉ line.toList) :
    LogFiles.lines (EventLog.fileText lines) = lines.map String.toList := by
  have feeds : '\r' ∉ (EventLog.fileText lines).toList := by
    rw [toList_fileText, List.mem_flatMap]
    rintro ⟨line, mem, found⟩
    rcases List.mem_append.mp found with found | found
    · exact (clean line mem).2 found
    · simp at found
  rw [LogFiles.lines, withLineFeeds_of_not_mem feeds,
    split_fileText fun line mem => (clean line mem).1]
  simp

/-- The lines of a file of records are the texts of the records. -/
theorem lines_print (records : List Json) :
    LogFiles.lines (EventLog.fileText (records.map Json.print)) =
      records.map fun record => record.print.toList := by
  rw [lines_fileText, List.map_map]
  · rfl
  · intro line mem
    obtain ⟨record, -, rfl⟩ := List.mem_map.mp mem
    have visible := Json.visible_print record
    constructor
    · intro feed
      exact absurd (visible _ feed).1 (by decide)
    · intro feed
      exact absurd (visible _ feed).1 (by decide)

theorem parseLine_of_parse {record : Json} (reads : Json.parse record.print = .ok record) :
    parseLine record.print.toList = .ok record := by
  rw [parseLine, String.ofList_toList, reads]
  rfl

/-- Going through the lines of records is going through the records. -/
theorem foldEvents_print {σ : Type} (step : σ → Json → Except Failure σ) {records : List Json}
    (readable : ∀ record ∈ records, record.IsRecord) (start : σ) :
    foldEvents step start (records.map fun record => record.print.toList) =
      records.foldlM step start := by
  induction records generalizing start with
  | nil => rfl
  | cons record records ih =>
    obtain ⟨plain, members, object⟩ := readable record List.mem_cons_self
    have later := ih fun other mem => readable other (List.mem_cons_of_mem _ mem)
    rw [List.map_cons, foldEvents, parseLine_of_parse (Json.parse_print plain), List.foldlM_cons]
    subst object
    cases stepped : step start (.object members) with
    | error failure => simp only [stepped]; rfl
    | ok next => simp only [stepped]; exact later next

end LogFiles

namespace EventLog

variable {log : EventLog}

/-- An open log writes what is buffered when all of it can be written. -/
theorem writeBuffer_of_open (isOpen : log.closed = false)
    (writable : ∀ record ∈ log.bufferRev, record.isWritable = true) :
    log.writeBuffer = (.ok (),
      { log with bufferRev := [], writtenRev := log.bufferRev ++ log.writtenRev }) := by
  rw [writeBuffer]
  split
  · rename_i empty
    rw [List.isEmpty_iff.mp empty, List.nil_append, ← List.isEmpty_iff.mp empty]
  · rw [if_neg]
    simpa [isOpen] using writable

/-- What cannot be written stays in the buffer. -/
theorem writeBuffer_of_unwritable {record : Json} (mem : record ∈ log.bufferRev)
    (unwritable : record.isWritable = false) : log.writeBuffer = (.error .badValue, log) := by
  have nonempty : ¬ log.bufferRev.isEmpty = true := by
    rw [List.isEmpty_iff]
    exact List.ne_nil_of_mem mem
  have unwritten : log.bufferRev.all Json.isWritable = false := by
    rw [List.all_eq_false]
    exact ⟨record, mem, by simp [unwritable]⟩
  rw [writeBuffer, if_neg nonempty, if_pos (by simp [unwritten])]

/-- All that is buffered can be written, or the log refuses to. -/
theorem writeBuffer_cases (isOpen : log.closed = false) :
    (∀ record ∈ log.bufferRev, record.isWritable = true) ∧ log.writeBuffer = (.ok (),
        { log with bufferRev := [], writtenRev := log.bufferRev ++ log.writtenRev }) ∨
      (∃ record ∈ log.bufferRev, record.isWritable = false) ∧
        log.writeBuffer = (.error .badValue, log) := by
  cases all : log.bufferRev.all Json.isWritable with
  | true =>
    have writable := List.all_eq_true.mp all
    exact .inl ⟨writable, writeBuffer_of_open isOpen writable⟩
  | false =>
    obtain ⟨record, mem, unwritable⟩ := List.all_eq_false.mp all
    replace unwritable : record.isWritable = false := by simpa using unwritable
    exact .inr ⟨⟨record, mem, unwritable⟩, writeBuffer_of_unwritable mem unwritable⟩

/-- Writing the buffer changes nothing but where records are. -/
theorem writeBuffer_moves (log : EventLog) :
    ∃ bufferRev writtenRev, log.writeBuffer.2 = { log with bufferRev, writtenRev } := by
  unfold writeBuffer
  split
  · exact ⟨log.bufferRev, log.writtenRev, rfl⟩
  · split
    · exact ⟨log.bufferRev, log.writtenRev, rfl⟩
    · exact ⟨_, _, rfl⟩

/-- Logging a record counts it, and changes nothing else but where records are. -/
theorem add_moves (log : EventLog) (record : Json) :
    ∃ bufferRev writtenRev,
      (log.add record).2 = { log with bufferRev, writtenRev, count := log.count + 1 } := by
  unfold add
  dsimp only
  split
  · exact ⟨_, log.writtenRev, rfl⟩
  · split
    · obtain ⟨bufferRev, writtenRev, moved⟩ := writeBuffer_moves
        { log with bufferRev := record :: log.bufferRev, count := log.count + 1 }
      exact ⟨bufferRev, writtenRev, moved⟩
    · exact ⟨_, log.writtenRev, rfl⟩

@[simp] theorem closed_writeBuffer (log : EventLog) :
    log.writeBuffer.2.closed = log.closed := by
  obtain ⟨_, _, moved⟩ := writeBuffer_moves log
  rw [moved]

@[simp] theorem closed_add (log : EventLog) (record : Json) :
    (log.add record).2.closed = log.closed := by
  obtain ⟨_, _, moved⟩ := add_moves log record
  rw [moved]

@[simp] theorem summariesRev_writeBuffer (log : EventLog) :
    log.writeBuffer.2.summariesRev = log.summariesRev := by
  obtain ⟨_, _, moved⟩ := writeBuffer_moves log
  rw [moved]

@[simp] theorem summariesRev_add (log : EventLog) (record : Json) :
    (log.add record).2.summariesRev = log.summariesRev := by
  obtain ⟨_, _, moved⟩ := add_moves log record
  rw [moved]

/-- An open log is closed, or it refuses for what it cannot write. -/
theorem close_cases (isOpen : log.closed = false) :
    (∀ record ∈ log.bufferRev, record.isWritable = true) ∧ log.close = (.ok (),
        { log with
          bufferRev := []
          writtenRev := log.bufferRev ++ log.writtenRev
          closed := true }) ∨
      (∃ record ∈ log.bufferRev, record.isWritable = false) ∧ log.close.1 = .error .badValue := by
  rcases writeBuffer_cases isOpen with ⟨writable, written⟩ | ⟨unwritable, refused⟩
  · left
    rw [close, flush, written]
    simp only [isOpen, Bool.false_eq_true, if_false]
    exact ⟨writable, trivial⟩
  · right
    rw [close, flush, refused]
    exact ⟨unwritable, rfl⟩

/-- An open log whose buffer can be written can be closed, and has then written all of its
records. Otherwise it cannot. -/
theorem close_spec (isOpen : log.closed = false) :
    (log.close.1 = .ok () ↔ ∀ record ∈ log.bufferRev, record.isWritable = true) ∧
      (log.close.1 = .ok () → log.close.2.writtenRev = log.records.reverse) := by
  rw [records, List.reverse_reverse]
  rcases close_cases isOpen with ⟨writable, closed⟩ | ⟨⟨record, mem, unwritable⟩, refused⟩
  · rw [closed]
    exact ⟨⟨fun _ => writable, fun _ => rfl⟩, fun _ => rfl⟩
  · rw [refused]
    refine ⟨⟨by simp, fun writable => ?_⟩, by simp⟩
    simp [writable record mem] at unwritable

theorem eventsText_files (log : EventLog) :
    log.files.eventsText = some (fileText (log.writtenRev.reverse.map Json.print)) := by
  rw [List.map_reverse]
  rfl

/-- The file of events has the written records as its lines. -/
theorem eventLines_files (log : EventLog) :
    log.files.eventLines = log.writtenRev.reverse.map fun record => record.print.toList := by
  rw [LogFiles.eventLines, eventsText_files]
  exact LogFiles.lines_print _

/-- The file of a closed log has the records of the log as its lines. -/
theorem eventLines_files_close (isOpen : log.closed = false) (closes : log.close.1 = .ok ()) :
    log.close.2.files.eventLines = log.records.map fun record => record.print.toList := by
  rw [eventLines_files, (close_spec isOpen).2 closes, List.reverse_reverse]

end EventLog

end NtpQuery
