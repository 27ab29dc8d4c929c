import NtpQuery.Http.Framework

/-!
# The standard framework

The program runs with this framework. It reads whole numbers in a generous
notation, in parameters and in bodies. Slashes at the end of a path lead to the
route without them. Of parameters and bodies that are not valid it says no more
than that, and outside the routes it has nothing to show.
-/

namespace NtpQuery.Http

/-- Digits without a fraction, or with a fraction of zeros. -/
def wholePart? (text : List Char) : Option (List Char) :=
  match text.dropWhile (· ≠ '.') with
  | [] => some text
  | _ :: fraction =>
    if !fraction.isEmpty && fraction.all (· = '0') then some (text.takeWhile (· ≠ '.')) else none

/-- A number that starts with a digit, without the zeros in front of it and the
underscores among them. One zero stays in front of a point and where nothing
else is left. -/
def withoutLeadingZeros? : List Char → Option (List Char)
  | [] => none
  | '0' :: rest =>
    let zeros := rest.takeWhile fun c => c = '0' || c = '_'
    let last := zeros.getLastD '0'
    match rest.drop zeros.length with
    | [] => some [last]
    | '.' :: fraction => some (last :: '.' :: fraction)
    | number => some number
  | first :: rest => if first.isDigit then some (first :: rest) else none

/-- A whole number as a parameter: blanks around it, a sign, zeros in front, which
a minus may follow, underscores between digits and a fraction of zeros are accepted.
An underscore may stand behind a minus that follows zeros. -/
def readWhole? (text : String) : Option Int := do
  let (negative, body) := Text.Numeral.splitSign (Text.trim Text.isBlank text.toList)
  let number ← withoutLeadingZeros? body
  let (behindZeros, number) :=
    match number with
    | '-' :: '_' :: rest => (true, rest)
    | '-' :: rest => (true, rest)
    | _ => (false, number)
  let whole ← wholePart? number
  let digits ← Text.Numeral.groupedDigits? Text.asciiDigitValue? whole
  let n ← Text.Numeral.ofDigits? digits
  if behindZeros && (negative || (1 < digits.length && digits.head? = some 0)) then none
  else some (Text.Numeral.withSign (negative || behindZeros) n)

/-- A whole number in a body: also a truth value, a text or a double with no fraction. -/
def wholeOf? : Json → Option Int
  | .number (.whole n) => some n
  | .number (.real x) => x.integer?.filter fun n => n.natAbs < 9223372036854775808
  | .bool b => some b.toNat
  | .text s => readWhole? s
  | _ => none

/-- The answer to a request that fails a check. -/
def invalid : Response := detail 422 "validation"

/-- The answer to a body that cannot be read. -/
def unreadable : Response := detail 400 "There was an error parsing the body"

/-- The last value of a parameter. -/
def param? (request : Request) (name : String) : Option String :=
  (request.values name).getLast?

/-- A whole parameter within bounds; the outer result is none when it is invalid. -/
def wholeParam? (request : Request) (name : String) (valid : Int → Bool) :
    Option (Option Int) :=
  match param? request name with
  | none => some none
  | some text =>
    match readWhole? text with
    | some n => if valid n then some (some n) else none
    | none => none

/-- The query that a request asks for; none when a parameter is invalid. -/
def queryOf? (request : Request) : Option NtpQuery.Request := do
  let host ← param? request "host"
  let port ← wholeParam? request "port" fun n => 1 ≤ n && n ≤ 65535
  let retries ← wholeParam? request "retries" fun n => 0 ≤ n
  let timeoutMs ← wholeParam? request "timeout_ms" fun n => 0 < n
  pure { host, port := port.getD standardPort, retries, timeoutMs }

/-- A number of a body that may be absent or null; none when it is invalid. -/
def wholeMember? (body : Json) (name : String) : Option (Option Int) :=
  match body.member? name with
  | none | some .null => some none
  | some value => (wholeOf? value).map some

/-- The new defaults that a body asks for; none when it is invalid. -/
def defaultsOf? (body : Json) : Option (Option Int × Option Int) :=
  match body with
  | .object _ => do
    let retries ← wholeMember? body "retries"
    let timeoutMs ← wholeMember? body "timeout_ms"
    pure (retries, timeoutMs)
  | _ => none

/-- The path without slashes at its end and without a line feed that is then its end. -/
def canonicalPath (path : List Char) : List Char :=
  let path := (path.reverse.dropWhile (· = '/')).reverse
  if path.getLast? = some '\n' then path.dropLast else path

/-- The route of a request, or the answer when it has none. -/
def routeOf (request : Request) : Except Response Route :=
  let path := canonicalPath request.target.path
  match routes.filter fun (p, _, _) => p.toList = path with
  | [] => .error (detail 404 "Not Found")
  | onPath =>
    match onPath.find? fun (_, method, _) => method = request.method with
    | some (_, _, route) => .ok route
    | none => .error (detail 405 "Method Not Allowed")

/-- The defaults to be put, or the answer to a body that is not valid. A whole number
that is too long makes a body unreadable. -/
def readDefaults (request : Request) : Except Response (Option Int × Option Int) :=
  match request.body with
  | none => .error invalid
  | some body =>
    if body.isWritable then
      match defaultsOf? body with
      | none => .error invalid
      | some numbers => .ok numbers
    else .error unreadable

def standard : Framework where
  route := routeOf
  query request :=
    match queryOf? request with
    | none => .error invalid
    | some query => .ok query
  defaults := readDefaults

end NtpQuery.Http
