import NtpQuery.Address
import NtpQuery.Failure
import NtpQuery.Text.Numeral

/-!
# References

A reference names a resource by a scheme, an authority, a path, a query and a
fragment, of which any may be absent. The authority names a host, with a user
in front and a port behind.

A reference may be refused: for a control character, for its length, for a port
that is no number, for a host that looks like an address and is none, and for a
path that would be taken for something else without what stands in front of it.
-/

namespace NtpQuery.Http

structure Reference where
  scheme : List Char := []
  user : List Char := []
  host : List Char := []
  port : Option Int := none
  path : List Char := []
  query : Option (List Char) := none
  deriving DecidableEq, Repr, Inhabited

/-- A text in front of a character and behind it; none behind when it does not occur. -/
def cut (mark : Char) (text : List Char) : List Char × Option (List Char) :=
  match text.dropWhile (· ≠ mark) with
  | [] => (text, none)
  | _ :: behind => (text.takeWhile (· ≠ mark), some behind)

namespace Reference

def isSchemeChar (c : Char) : Bool :=
  c.isAlphanum || c = '+' || c = '.' || c = '-'

/-- The scheme of a reference and the rest. A colon at the start ends an empty scheme. -/
def splitScheme (text : List Char) : List Char × List Char :=
  let scheme := text.takeWhile isSchemeChar
  match text.drop scheme.length with
  | ':' :: rest => if scheme.head?.all Char.isAlpha then (scheme, rest) else ([], text)
  | _ => ([], text)

/-- The authority of a reference without a scheme, and the rest. -/
def splitAuthority : List Char → List Char × List Char
  | '/' :: '/' :: rest => (rest.takeWhile (· ≠ '/'), rest.dropWhile (· ≠ '/'))
  | text => ([], text)

/-- The part of a text up to the last of a character, with it, and the rest. -/
def splitBehindLast (mark : Char) (text : List Char) : List Char × List Char :=
  let behind := (text.reverse.takeWhile (· ≠ mark)).reverse
  (text.take (text.length - behind.length), behind)

/-- The host and what follows. A host in brackets ends with the last bracket that closes
one, any other in front of a colon. -/
def splitHost (text : List Char) : List Char × List Char :=
  if text.head? = some '[' && text.contains ']' then splitBehindLast ']' text
  else (text.takeWhile (· ≠ ':'), text.dropWhile (· ≠ ':'))

/-- The port that stands behind a host; the outer result is none when it is no number. -/
def portOf? (text : List Char) : Option (Option Int) :=
  let digits := if text.head? = some ':' then text.tail else text
  if digits.isEmpty then some none else (Text.Numeral.read? digits).map some

/-- Whether a host looks like four numbers: digits with three characters between them,
which may be digits themselves. -/
def resemblesQuad (host : List Char) : Bool :=
  let runs := Text.split '.' (host.map fun c => if c.isDigit then c else '.')
  let further := runs.foldl (fun n run => n + (run.length - 1) / 2) 0
  runs.all (!·.isEmpty) && runs.length ≤ 4 && 4 ≤ runs.length + further

def isBracketed (host : List Char) : Bool :=
  host.head? = some '[' && host.getLast? = some ']'

/-- Whether a host may be named so. -/
def isHost (host : List Char) : Bool :=
  if resemblesQuad host then Address.isDottedQuad host
  else !isBracketed host || Address.isColonAddress (host.drop 1).dropLast

/-- Takes the next segment of a path; the segments taken before are given newest first. -/
def step (segmentsRev : List (List Char)) (segment : List Char) : List (List Char) :=
  if segment = ['.'] then segmentsRev
  else if segment = ['.', '.'] then
    if segmentsRev = [[]] then segmentsRev else segmentsRev.tail
  else segment :: segmentsRev

/-- A path without segments of dots, which are taken as steps. -/
def withoutDots (path : List Char) : List Char :=
  ['/'].intercalate ((Text.split '/' path).foldl step []).reverse

def hasAuthority (reference : Reference) : Bool :=
  !reference.user.isEmpty || !reference.host.isEmpty || reference.port.isSome

/-- Whether scheme and host are named. -/
def isAbsolute (reference : Reference) : Bool :=
  !reference.scheme.isEmpty && !reference.host.isEmpty

/-- A reference with its path as it is meant: behind a scheme or an authority, segments
of dots are steps; without them, a path may not begin like an authority or a scheme. -/
def settled? (reference : Reference) : Option Reference :=
  if !reference.scheme.isEmpty || reference.hasAuthority then
    some { reference with path := withoutDots reference.path }
  else
    match reference.path with
    | '/' :: '/' :: _ | ':' :: _ => none
    | _ => some reference

/-- The most characters that a reference may have. -/
def maxSize : Nat := 65536

def isControl (c : Char) : Bool :=
  c.toNat < 0x20 || c.toNat = 0x7F

/-- The reference that a text denotes; none when it is refused. -/
def parse? (text : List Char) : Option Reference :=
  if maxSize < text.length || text.any isControl then none
  else
    let (text, _) := cut '#' text
    let (text, query) := cut '?' text
    let (scheme, text) := splitScheme text
    let (authority, path) := splitAuthority text
    let (user, place) := splitBehindLast '@' authority
    let (host, behind) := splitHost place
    match portOf? behind with
    | none => none
    | some port =>
      if isHost host then
        settled?
          { scheme := scheme.map Char.toLower, user := user.dropLast, host, port, path, query }
      else none

/-- Why nobody can be asked for what an absolute reference names. -/
def serviceFailure? (reference : Reference) : Option Failure :=
  let scheme := String.ofList reference.scheme
  if !reference.isAbsolute then none
  else if ["http", "https", "ws", "wss"].all (· ≠ scheme) then some .unknownScheme
  else if isBracketed reference.host then some .badValue
  else if scheme.startsWith "ws" then some .otherProtocol
  else none

end Reference

end NtpQuery.Http
