import NtpQuery.Http.Reference
import NtpQuery.Text.Percent

/-!
# Request targets

A request names what it is for by a path and parameters. They come from a
reference. One without scheme and host is resolved against the root of the
service, so its path may do without a leading slash or have several. After that
the escapes of the path are resolved twice, once by the sender and once by the
receiver.
-/

namespace NtpQuery.Http

structure Target where
  path : List Char
  params : List (String × String)
  deriving DecidableEq, Repr, Inhabited

namespace Target

/-- The text of a parameter, in which a plus sign stands for a blank. -/
def unescapeParam (text : List Char) : String :=
  String.ofList (Text.unescape (text.map fun c => if c = '+' then ' ' else c))

/-- The parameter that a part of a query gives. -/
def paramOf (part : List Char) : String × String :=
  let (name, value) := cut '=' part
  (unescapeParam name, unescapeParam (value.getD []))

/-- The parameters of a query, in order. Empty parts give none. -/
def paramsOf (query : List Char) : List (String × String) :=
  ((Text.split '&' query).filter fun part => !part.isEmpty).map paramOf

/-- How many characters a text takes in a query. -/
def escapedSize (text : String) : Nat :=
  text.toList.foldl (fun n c =>
    if c.isAlphanum || ['_', '.', '-', '~', ' '].contains c then n + 1
    else n + 3 * (Text.encodeUtf8 [c]).length) 0

/-- Whether parameters make no query longer than a reference may be. -/
def paramsFit (params : List (String × String)) : Bool :=
  params.foldl (fun n (name, value) => n + 2 + escapedSize name + escapedSize value) 0 ≤
    Reference.maxSize + 1

/-- What a reference names. -/
def ofReference (reference : Reference) : Target :=
  let path :=
    if reference.isAbsolute then reference.path
    else Reference.withoutDots ('/' :: reference.path.dropWhile (· = '/'))
  { path := Text.unescape (Text.unescape path), params := paramsOf (reference.query.getD []) }

end Target

end NtpQuery.Http
