import NtpQuery.Mapping
import NtpQuery.Text.Numeral
import NtpQuery.Text.Split

/-!
# Variable lists

A server describes itself in a list of variables, `name=value` segments that
are separated by commas and white space. `VariableList.read` collects them
under a group name, `sys` or `peer`: the key of a variable is its group, a dot
and its name, cut after 255 characters. Segments without an equals sign are
skipped and a repeated key keeps its last value.

Blanks in front of a segment are dropped, except at the very beginning. The
end of the list loses up to two characters, which is how lists are terminated:
both when the last but one is blank, otherwise the last when that is blank.

`VariableList.render` writes a list that is read back entry by entry.
-/

namespace NtpQuery.VariableList

def maxKeyLength : Nat := 255

def key (group : String) (name : List Char) : String :=
  String.ofList ((group.toList ++ '.' :: name).take maxKeyLength)

/-- The entry that a segment denotes; none without an equals sign. -/
def assignment? (group : String) (segment : List Char) : Option (String × String) :=
  if '=' ∈ segment then
    some (key group (segment.takeWhile (· ≠ '=')),
      String.ofList ((segment.dropWhile (· ≠ '=')).drop 1))
  else none

def dropSpacing (segment : List Char) : List Char :=
  segment.dropWhile Text.isSpacing

/-- A segment without the terminator of the list. -/
def dropTerminator (segment : List Char) : List Char :=
  match segment.reverse with
  | last :: previous :: rest =>
    if Text.isSpacing previous then rest.reverse
    else if Text.isSpacing last then (previous :: rest).reverse
    else segment
  | [last] => if Text.isSpacing last then [] else segment
  | [] => segment

/-- Segments behind the first one: all lose leading blanks, the last one also
its terminator. -/
def trimLater : List (List Char) → List (List Char)
  | [] => []
  | [last] => [dropTerminator (dropSpacing last)]
  | segment :: rest => dropSpacing segment :: trimLater rest

/-- The segments as they are read. -/
def trimmed : List (List Char) → List (List Char)
  | [] => []
  | [only] => [dropTerminator only]
  | first :: rest => first :: trimLater rest

/-- The entries of a list in order, repetitions included. -/
def entries (group : String) (text : List Char) : List (String × String) :=
  (trimmed (Text.split ',' text)).filterMap (assignment? group)

/-- The variables of a list, added to those already known. -/
def read (text group : String) (known : Mapping String String) : Mapping String String :=
  known.putAll (entries group text.toList)

/-- A list in which each variable after the first has the given blanks in front. -/
def render : List (List Char × List Char × List Char) → List Char
  | [] => []
  | [(name, value, _)] => name ++ '=' :: value ++ ['\r', '\n']
  | (name, value, gap) :: rest => name ++ '=' :: value ++ ',' :: gap ++ render rest

/-- The digits at the start of a text, blanks in front of them skipped. -/
def leadingDigits (text : List Char) : List Nat :=
  ((text.dropWhile Text.isBlankOrSeparator).takeWhile Text.isDecimalDigit).filterMap
    Text.digitValue?

/-- The digits behind the first `peer=` that a number follows, wherever it stands. -/
def peerDigits? : List Char → Option (List Nat)
  | [] => none
  | c :: rest =>
    if "peer=".toList.isPrefixOf (c :: rest) && !(leadingDigits (rest.drop 4)).isEmpty then
      some (leadingDigits (rest.drop 4))
    else peerDigits? rest

/-- The association of the system peer that a text names, in 16 bits. Zero
means none. The outer result is none when the number has too many digits. -/
def peerAssociation? (text : String) : Option (Option Nat) :=
  match peerDigits? text.toList with
  | none => some none
  | some digits =>
    (Text.Numeral.ofDigits? digits).map fun n => if n % 65536 = 0 then none else some (n % 65536)

end NtpQuery.VariableList
