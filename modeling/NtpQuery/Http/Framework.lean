import NtpQuery.Client
import NtpQuery.Http.Message

/-!
# What stands in front of the service

The service declares its routes, and for each the arguments that it takes. A
framework makes them of a request: it finds the route by path and method, reads
the arguments from parameters or the body, and checks the bounds declared for
them. What it cannot make anything of it answers itself, and the service never
sees it.

Which framework that is, is left open. `Framework.Lawful` is what the service
relies on: that routes are found as they are declared, that what is read is what
was given, within the bounds, and that what is not read is answered as invalid.
How numbers are read that are not written plainly, what an invalid request is
told and what is answered outside the routes is for the framework to decide.
-/

namespace NtpQuery.Http

/-- What a request is for. -/
inductive Route where
  | status
  | time
  | showDefaults
  | changeDefaults
  | metrics
  | health
  deriving DecidableEq, Repr

/-- The route of the queries of a kind. -/
def Route.ofKind : QueryKind → Route
  | .status => .status
  | .time => .time

/-- The routes: path, method and what it is for. -/
def routes : List (String × String × Route) :=
  [("/ntp/status", "GET", .status), ("/ntp/time", "GET", .time),
   ("/ntp/defaults", "GET", .showDefaults), ("/ntp/defaults", "PUT", .changeDefaults),
   ("/metrics", "GET", .metrics), ("/health", "GET", .health)]

/-- The request has the path and the method that a route is declared for. -/
def Request.IsFor (request : Request) (route : Route) : Prop :=
  ∃ path, (path, request.method, route) ∈ routes ∧ request.target.path = path.toList

structure Framework where
  /-- The route of a request, or the answer when it has none. -/
  route : Request → Except Response Route
  /-- The query that is asked for, or the answer when the parameters are not valid. -/
  query : Request → Except Response NtpQuery.Request
  /-- The retries and the timeout to be put, or the answer when the body is not valid. -/
  defaults : Request → Except Response (Option Int × Option Int)

/-- A number is read from the digits of a parameter, and none where the parameter is not given. -/
def Request.Gives (request : Request) (name : String) (read : Option Int) : Prop :=
  ∀ given : Option Int, request.values name = given.toList.map toString → read = given

/-- The query is what the parameters of a request ask for. -/
structure Request.Asks (request : Request) (query : NtpQuery.Request) : Prop where
  host : query.host ∈ request.values "host"
  port : ∃ port, request.Gives "port" port ∧ query.port = port.getD standardPort
  portRange : 1 ≤ query.port ∧ query.port ≤ 65535
  retries : request.Gives "retries" query.retries
  nonneg : ∀ n ∈ query.retries, 0 ≤ n
  timeoutMs : request.Gives "timeout_ms" query.timeoutMs
  positive : ∀ n ∈ query.timeoutMs, 0 < n

/-- The numbers are those of the body of a request, where a missing one is the same as null. -/
structure Request.Puts (request : Request) (numbers : Option Int × Option Int) : Prop where
  retries : ∀ (body : Json) (given : Option Int), request.body = some body →
    (body.member? "retries").getD .null = given.elim .null .whole → numbers.1 = given
  timeoutMs : ∀ (body : Json) (given : Option Int), request.body = some body →
    (body.member? "timeout_ms").getD .null = given.elim .null .whole → numbers.2 = given

/-- What the service relies on. -/
structure Framework.Lawful (framework : Framework) : Prop where
  /-- Routes are found by path and method. -/
  routed : ∀ request route, request.IsFor route → framework.route request = .ok route
  /-- Parameters are read and checked as they are declared. -/
  asks : ∀ request query, framework.query request = .ok query → request.Asks query
  /-- Parameters that are missing, cannot be read or are out of bounds are answered 422. -/
  unasked : ∀ request response, framework.query request = .error response →
    response.status = 422
  /-- Bodies are read as they are declared. -/
  puts : ∀ request numbers, framework.defaults request = .ok numbers → request.Puts numbers
  /-- Bodies that are not as declared are answered 422, those that cannot be read at all 400. -/
  unput : ∀ request response, framework.defaults request = .error response →
    response.status = 422 ∨ response.status = 400

end NtpQuery.Http
