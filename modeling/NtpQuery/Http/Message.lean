import NtpQuery.Http.Target
import NtpQuery.Json.Printer

/-!
# Requests and responses

A request has a method, a target with parameters and perhaps a body; a response
has a status and a body. Parameters are part of the target unless they are given
apart from it. A request that cannot be written down, or asks somebody else, is
not sent.
-/

namespace NtpQuery.Http

structure Request where
  method : String
  target : Target
  body : Option Json := none
  deriving Repr

/-- The request with a method in any case, a reference to its target, parameters and
a body. Parameters given here replace those of the reference. A body can only be
written when all its numbers are finite, and whole ones not too long. -/
def Request.make (method reference : String) (params : Option (List (String × String)))
    (body : Option Json) : Except Failure Request :=
  match Reference.parse? reference.toList with
  | none => .error .badReference
  | some parsed =>
    if !Target.paramsFit (params.getD []) then .error .badReference
    else if !(body.all fun body => body.isFinite && body.isWritable) then .error .badValue
    else
      match parsed.serviceFailure? with
      | some failure => .error failure
      | none =>
        let target := Target.ofReference parsed
        .ok { method := method.toUpper, body
              target := { target with params := params.getD target.params } }

/-- The values of a parameter, in order. -/
def Request.values (request : Request) (name : String) : List String :=
  (request.target.params.filter fun entry => entry.1 = name).map (·.2)

/-- The text of a parameter that is given as a value. -/
def paramText : Json → String
  | .null => ""
  | .text s => s
  | .number n => n.toText
  | value => value.print

/-- Parameters that are given as the members of an object, where a list gives one for
each of its items, as a list of pairs or as a query. -/
def paramsOf? : Json → Option (List (String × String))
  | .null => none
  | .object members =>
    some <| members.flatMap fun (name, value) =>
      match value with
      | .list items => items.map fun item => (name, paramText item)
      | value => [(name, paramText value)]
  | .list pairs =>
    some <| pairs.filterMap fun
      | .list [name, value] => some (paramText name, paramText value)
      | _ => none
  | .text query => some (Target.paramsOf query.toList)
  | _ => some []

structure Response where
  status : Nat
  body : Json
  deriving Repr

/-- The response that tells of a failure. -/
def detail (status : Nat) (message : String) : Response :=
  ⟨status, .object [("detail", .text message)]⟩

end NtpQuery.Http
