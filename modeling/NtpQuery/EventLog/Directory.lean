import NtpQuery.Failure
import NtpQuery.Text.Split
import NtpQuery.Text.Utf8

/-!
# Directories of event logs

A log is in a directory below the one for all logs, named after its session.
The name may be a path. A path may hold empty parts and single dots, which say
nothing, and two dots, which lead back.

The system refuses a path that is too long as a whole, and one with a part that
is too long. Missing directories are made from the inside out, which goes only
so deep.
-/

namespace NtpQuery.EventLog

/-- The longest name of a file in octets. -/
def maxNameSize : Nat := 255

/-- The longest path of a file in octets. -/
def maxPathSize : Nat := 4095

/-- The most directories that are made for one path. -/
def maxDepth : Nat := 985

/-- The longest name of a file of a log. -/
def summaryName : List Char := "summary.jsonl".toList

/-- The parts of a path that say something. -/
def pathParts (path : List Char) : List (List Char) :=
  (Text.split '/' path).filter fun part => !part.isEmpty && part ≠ ['.']

/-- How many octets a part of a path takes. -/
def partSize (part : List Char) : Nat :=
  (Text.encodeUtf8 part).length

/-- How many octets a path takes when each of its parts but the first of a relative
one has one slash in front. -/
def pathSize (path : List Char) : Nat :=
  let size := (pathParts path).foldl (fun n part => n + 1 + partSize part) 0
  if path.head? = some '/' then size else size - 1

/-- Why the log of a session can not be in the directory for all logs: a NUL is part of
no path, and the system has its limits. -/
def pathFailure? (root sessionId : String) : Option Failure :=
  let path := root.toList ++ '/' :: sessionId.toList
  if path.contains '\x00' then some .badValue
  else if maxPathSize < pathSize (path ++ '/' :: summaryName) then some .system
  else if maxDepth < (pathParts path).length then some .tooDeep
  else if (pathParts path).any fun part => maxNameSize < partSize part then some .system
  else none

/-- Takes the next part of a path, where two dots lead back; the parts taken before
are given newest first. -/
def stepInto (partsRev : List (List Char)) (part : List Char) : List (List Char) :=
  match part, partsRev with
  | ['.', '.'], last :: before => if last = ['.', '.'] then part :: partsRev else before
  | _, _ => part :: partsRev

/-- The directory of a session, as seen from the directory for all logs. -/
def directory (sessionId : String) : String :=
  let parts := ((pathParts sessionId.toList).foldl stepInto []).reverse
  if parts.isEmpty then "." else "/".intercalate (parts.map String.ofList)

end NtpQuery.EventLog
