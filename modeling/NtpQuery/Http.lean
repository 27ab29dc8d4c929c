import NtpQuery.Http.Standard

/-!
# The HTTP interface

Status and time queries, their defaults and the metrics are offered over HTTP.
Requests come through a framework that checks parameters before anything else;
a request that fails the check is answered whether or not a client exists. A
query error is answered by its kind: 504 when nobody responded, 400 for an
address, 422 for an argument and 502 for the rest. Failures that no query
reports end the service.
-/

namespace NtpQuery.Http

def notInitialized : Response := detail 500 "Client not initialized"

/-- The status that reports an error. -/
def statusOf : QueryError → Nat
  | .noResponse _ => 504
  | .address _ => 400
  | .argument _ => 422
  | _ => 502

def errorResponse (error : QueryError) : Response :=
  detail (statusOf error) error.message

def statusBody (host : String) (known : Mapping String String) : Json :=
  .object [("host", .text host), ("variables", .object (Client.textMembers known))]

def timeBody (host : String) (result : TimeResult) : Json :=
  .object
    [("host", .text host), ("time", .whole result.time), ("offset", .real result.offset),
     ("delay", .real result.delay), ("stratum", .whole result.stratum),
     ("precision", .whole result.precision), ("refid", .text result.refid)]

def defaultsBody (defaults : Budget) : Json :=
  .object [("retries", .whole defaults.retries), ("timeout_ms", .whole defaults.timeoutMs)]

/-- The answer to a query; failures that no query reports have none. -/
def answer {α : Type} (result : Except Failure α) (body : α → Json) : Except Failure Response :=
  match result with
  | .ok a => .ok ⟨200, body a⟩
  | .error (.reported error) => .ok (errorResponse error)
  | .error failure => .error failure

def healthBody : Json :=
  .object [("status", .text "healthy"), ("service", .text "ntpq API")]

namespace Framework

variable (framework : Framework)

/-- Answers a request whose route needs a client. -/
def onClient (route : Route) (request : Request) (client : Client) :
    Except Failure Response × Client :=
  match route with
  | .status =>
    match framework.query request with
    | .error response => (.ok response, client)
    | .ok query =>
      let (result, client) := client.queryStatus query
      (answer result (statusBody query.host), client)
  | .time =>
    match framework.query request with
    | .error response => (.ok response, client)
    | .ok query =>
      let (result, client) := client.queryTime query
      (answer result (timeBody query.host), client)
  | .showDefaults => (.ok ⟨200, defaultsBody client.defaults⟩, client)
  | .changeDefaults =>
    match framework.defaults request with
    | .error response => (.ok response, client)
    | .ok (retries, timeoutMs) =>
      match client.updateDefaults retries timeoutMs with
      | (.error error, client) => (.ok (errorResponse error), client)
      | (.ok _, client) => (.ok ⟨200, defaultsBody client.defaults⟩, client)
  | .metrics =>
    let failures := client.record.metrics.recentFailures 20
    ((client.record.metrics.snapshot client.now).map fun stats =>
      ⟨200, .object [("stats", stats), ("events", .list (failures.map RecentFailure.record))]⟩,
      client)
  | .health => (.ok ⟨200, healthBody⟩, client)

/-- Answers a request without a client. -/
def withoutClient (route : Route) (request : Request) : Response :=
  match route with
  | .status | .time =>
    match framework.query request with
    | .error response => response
    | .ok _ => notInitialized
  | .changeDefaults =>
    match framework.defaults request with
    | .error response => response
    | .ok _ => notInitialized
  | .showDefaults | .metrics => notInitialized
  | .health => ⟨200, healthBody⟩

/-- Answers a request, whatever its sender makes of the answer. -/
def handle (request : Request) (client : Option Client) :
    Except Failure Response × Option Client :=
  match framework.route request, client with
  | .error response, client => (.ok response, client)
  | .ok route, none => (.ok (framework.withoutClient route request), none)
  | .ok route, some client =>
    let (response, client) := framework.onClient route request client
    (response, some client)

end Framework

/-- Answers a request and reads the answer. That to a HEAD request has no body to read. -/
def exchange (request : Request) (client : Option Client) :
    Except Failure Response × Option Client :=
  let (response, client) := standard.handle request client
  (response.bind fun response =>
    if request.method = "HEAD" then .error .notJson else .ok response, client)

end NtpQuery.Http
