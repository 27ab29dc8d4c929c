import NtpQuery.Http
import NtpQuery.Proofs.Client.Answering
import NtpQuery.Proofs.Http.Standard
import NtpQuery.Proofs.Metrics.Snapshot

/-!
# The history of a service

A service answers requests one after the other with one client. What it has
answered tells what it holds: its defaults are the first ones with all numbers
that were put and accepted since, and its metrics count the queries that were
answered, by the status of the answer.

A query takes the numbers of its request where there are any, and the defaults
otherwise. Its answer tells how it went: 200 with a result, 400 for an address,
504 when nobody responded and 502 for what the system refused; 422 says that
there was no query, because the parameters were not valid.

It does not matter which framework stands in front of the service, as long as it
is one that can be relied on. That every query is answered takes the clocks of a
machine and timeouts that can be told to the system.
-/

namespace NtpQuery

namespace Http

def status? (answer : Except Failure Response) : Option Nat :=
  answer.toOption.map (·.status)

/-- Requests with their answers. -/
abbrev Exchanges := List (Request × Except Failure Response)

namespace Framework

variable (framework : Framework)

/-- The kind of query that a request asks for. -/
def kindOf? (request : Request) : Option QueryKind :=
  match framework.route request with
  | .ok .status => some .status
  | .ok .time => some .time
  | _ => none

/-- Answers requests one after the other. It goes on when there is no answer to one. -/
def serve (client : Option Client) : List Request → Exchanges × Option Client
  | [] => ([], client)
  | request :: requests =>
    let first := framework.handle request client
    let others := serve first.2 requests
    ((request, first.1) :: others.1, others.2)

/-- The new defaults that a request has put, when it is answered 200. -/
def put? (exchange : Request × Except Failure Response) : Option (Option Int × Option Int) :=
  match framework.route exchange.1, framework.defaults exchange.1 with
  | .ok .changeDefaults, .ok numbers => if status? exchange.2 = some 200 then some numbers else none
  | _, _ => none

end Framework

/-- Retries and timeout with some of them replaced. -/
def replace (numbers : Int × Int) (put : Option Int × Option Int) : Int × Int :=
  (put.1.getD numbers.1, put.2.getD numbers.2)

def numbers (budget : Budget) : Int × Int := (budget.retries, budget.timeoutMs)

namespace Framework

variable (framework : Framework)

/-- The numbers that are left by what was put. -/
def putAll (numbers : Int × Int) (exchanges : Exchanges) : Int × Int :=
  (exchanges.filterMap framework.put?).foldl replace numbers

/-- What was put with an answer of 200 was read as the body says. -/
def Reads (exchange : Request × Except Failure Response) : Prop :=
  framework.route exchange.1 = .ok .changeDefaults → status? exchange.2 = some 200 →
    ∃ numbers, framework.put? exchange = some numbers ∧ exchange.1.Puts numbers

/-- How many queries were answered with a status. -/
def answered (status : Nat) (exchanges : Exchanges) : Nat :=
  exchanges.countP fun exchange =>
    (framework.kindOf? exchange.1).isSome && status? exchange.2 = some status

/-- The timeouts that a request gives, to a query or as a default, can be told to the system. -/
structure GivesTellable (request : Request) : Prop where
  query : ∀ query, framework.query request = .ok query →
    ∀ n ∈ query.timeoutMs, Network.Tellable n
  defaults : ∀ numbers, framework.defaults request = .ok numbers →
    ∀ n ∈ numbers.2, Network.Tellable n

end Framework

/-- How a query of a client is answered. -/
inductive Reply (client : Client) (call : Call) : Except Failure Response → Prop
  | result {body : Json} (returned : (client.perform call).1 = .ok ()) :
      Reply client call (.ok ⟨200, body⟩)
  | address {message : String}
      (failed : (client.perform call).1 = .error (.reported (.address message))) :
      Reply client call (.ok (detail 400 message))
  | silence {message : String}
      (failed : (client.perform call).1 = .error (.reported (.noResponse message))) :
      Reply client call (.ok (detail 504 message))
  | refusal {refusal : Refusal} {message : String}
      (failed : (client.perform call).1 = .error (.reported (refusal.error message))) :
      Reply client call (.ok (detail 502 (refusal.error message).message))

/-- A client with which a service can go on: closing is not refused, and its numbers are in the
range of the doubles. -/
structure Serviceable (client : Client) : Prop where
  closing : refused client.network.faults.close = 0
  bothKinds : client.record.metrics.BothKinds
  timely : client.record.metrics.IsTimely
  tellable : Network.Tellable client.defaults.timeoutMs

variable {framework : Framework} {client : Client} {request : Request} {kind : QueryKind}
  {query : NtpQuery.Request}

/-! ### A query -/

theorem route_of_kindOf? (asks : framework.kindOf? request = some kind) :
    framework.route request = .ok (.ofKind kind) := by
  rw [Framework.kindOf?] at asks
  split at asks
  · rename_i route
    obtain rfl := Option.some.inj asks
    exact route
  · rename_i route
    obtain rfl := Option.some.inj asks
    exact route
  · simp at asks

theorem kindOf?_of_route (found : framework.route request = .ok (.ofKind kind)) :
    framework.kindOf? request = some kind := by
  rw [Framework.kindOf?, found]
  cases kind <;> rfl

theorem handle_of_route {route : Route} (found : framework.route request = .ok route) :
    framework.handle request (some client) =
      ((framework.onClient route request client).1,
        some (framework.onClient route request client).2) := by
  simp only [Framework.handle, found]

/-- A query request whose parameters are not valid is answered as such, and nothing else happens. -/
theorem handle_unasked {response : Response} (asks : framework.kindOf? request = some kind)
    (unasked : framework.query request = .error response) :
    framework.handle request (some client) = (.ok response, some client) := by
  rw [handle_of_route (route_of_kindOf? asks)]
  cases kind with
  | status => simp only [Route.ofKind, Framework.onClient, unasked]
  | time => simp only [Route.ofKind, Framework.onClient, unasked]

/-- Apart from the result, an answer is known from the outcome. -/
theorem answer_eq {α : Type} (result : Except Failure α) (body : α → Json) :
    ∃ shown, answer result body = answer (result.map fun _ => ()) fun _ => shown := by
  cases result with
  | ok a => exact ⟨body a, rfl⟩
  | error failure =>
    refine ⟨.null, ?_⟩
    cases failure <;> rfl

/-- A query request with valid parameters makes the query. -/
theorem handle_query (client : Client) (asks : framework.kindOf? request = some kind)
    (read : framework.query request = .ok query) :
    ∃ shown, framework.handle request (some client) =
      (answer (client.perform (.ofKind kind query)).1 fun _ => shown,
        some (client.perform (.ofKind kind query)).2) := by
  rw [handle_of_route (route_of_kindOf? asks)]
  cases kind with
  | status =>
    obtain ⟨shown, same⟩ := answer_eq (client.queryStatus query).1 (statusBody query.host)
    simp only [Route.ofKind, Framework.onClient, read, same]
    exact ⟨shown, rfl⟩
  | time =>
    obtain ⟨shown, same⟩ := answer_eq (client.queryTime query).1 (timeBody query.host)
    simp only [Route.ofKind, Framework.onClient, read, same]
    exact ⟨shown, rfl⟩

/-- The waits of an accepted query are no longer than its timeout. -/
theorem tellable_attemptMs {call : Call} {budget : Budget} {destination : Endpoint}
    (accepted : client.accept call.request = .ok (budget, destination))
    (tellable : Network.Tellable (call.request.timeoutMs.getD client.defaults.timeoutMs)) :
    Network.Tellable budget.attemptMs := by
  apply tellable.mono
  rw [← (Budget.override_numbers (Client.override_of_accept accepted)).2]
  exact Int.ofNat_le.mpr (Nat.div_le_self _ _)

/-- A query with valid numbers is answered as it went. -/
theorem reply_query (closing : refused client.network.faults.close = 0)
    (valid : request.Asks query)
    (tellable : Network.Tellable (query.timeoutMs.getD client.defaults.timeoutMs))
    (clocked : client.network.Clocked (client.perform (.ofKind kind query)).2.network)
    (shown : Json) :
    Reply client (.ofKind kind query)
      (answer (client.perform (.ofKind kind query)).1 fun _ => shown) := by
  have same : (Call.ofKind kind query).request = query := Call.request_ofKind kind query
  cases accepted : client.accept (Call.ofKind kind query).request with
  | error failure =>
    have failed := congrArg Prod.fst (Client.perform_of_refused accepted)
    rcases Client.accept_error accepted with ⟨message, -, unmade⟩ | ⟨message, rfl⟩
    · obtain ⟨next, made⟩ :=
        Budget.override_of_valid client.defaults valid.nonneg valid.positive
      rw [same, made] at unmade
      simp at unmade
    · rw [failed]
      exact .address failed
  | ok accepts =>
    obtain ⟨budget, destination⟩ := accepts
    rcases Client.outcome_perform accepted closing clocked with
      returned | failed | ⟨refusal, message, failed⟩ | ⟨-, untellable⟩
    · rw [returned]
      exact .result returned
    · rw [failed]
      exact .silence failed
    · rw [failed]
      have status : errorResponse (refusal.error message) =
          detail 502 (refusal.error message).message := by
        cases refusal <;> rfl
      rw [answer, status]
      exact .refusal failed
    · rw [clocked.forward, Int.add_zero] at untellable
      exact absurd (tellable_attemptMs accepted (by rw [same]; exact tellable)) untellable

/-! ### What answers tell -/

/-- The statuses that a query is answered with. -/
def queryStatuses : List Nat := [200, 400, 422, 502, 504]

/-- What a client holds after it has answered requests, compared with what it held before. -/
structure Framework.Kept (framework : Framework) (client : Client) (exchanges : Exchanges)
    (last : Client) : Prop where
  serviceable : Serviceable last
  defaults : numbers last.defaults = framework.putAll (numbers client.defaults) exchanges
  reads : ∀ exchange ∈ exchanges, framework.Reads exchange
  statuses : ∀ exchange ∈ exchanges, (framework.kindOf? exchange.1).isSome →
    ∃ status ∈ queryStatuses, status? exchange.2 = some status
  succeeded : last.total .succeeded =
    client.total .succeeded + framework.answered 200 exchanges
  noResponse : last.total .noResponse =
    client.total .noResponse + framework.answered 504 exchanges
  transportErrors : last.total .transportErrors =
    client.total .transportErrors + framework.answered 502 exchanges
  queries : last.total .queries = client.total .queries +
    (framework.answered 200 exchanges + framework.answered 504 exchanges +
      framework.answered 502 exchanges)

theorem answered_append (status : Nat) (exchanges others : Exchanges) :
    framework.answered status (exchanges ++ others) =
      framework.answered status exchanges + framework.answered status others :=
  List.countP_append

theorem putAll_append (start : Int × Int) (exchanges others : Exchanges) :
    framework.putAll start (exchanges ++ others) =
      framework.putAll (framework.putAll start exchanges) others := by
  rw [Framework.putAll, List.filterMap_append, List.foldl_append]
  rfl

theorem answered_one (status : Nat) (request : Request) (answer : Except Failure Response) :
    framework.answered status [(request, answer)] =
      ((framework.kindOf? request).isSome && status? answer = some status).toNat := by
  rw [Framework.answered, List.countP_singleton]
  show (if ((framework.kindOf? request).isSome &&
    decide (status? answer = some status)) = true then 1 else 0) = _
  cases (framework.kindOf? request).isSome && decide (status? answer = some status) <;> rfl

namespace Framework.Kept

theorem refl (serviceable : Serviceable client) : framework.Kept client [] client :=
  ⟨serviceable, rfl, by simp, by simp, rfl, rfl, rfl, rfl⟩

theorem trans {middle last : Client} {exchanges others : Exchanges}
    (first : framework.Kept client exchanges middle) (second : framework.Kept middle others last) :
    framework.Kept client (exchanges ++ others) last where
  serviceable := second.serviceable
  defaults := by rw [second.defaults, first.defaults, putAll_append]
  reads := List.forall_mem_append.mpr ⟨first.reads, second.reads⟩
  statuses := List.forall_mem_append.mpr ⟨first.statuses, second.statuses⟩
  succeeded := by
    rw [second.succeeded, first.succeeded, answered_append]
    omega
  noResponse := by
    rw [second.noResponse, first.noResponse, answered_append]
    omega
  transportErrors := by
    rw [second.transportErrors, first.transportErrors, answered_append]
    omega
  queries := by
    simp only [second.queries, first.queries, answered_append]
    omega

end Framework.Kept

theorem putAll_of_noPut {start : Int × Int} {answer : Except Failure Response}
    (noPut : framework.put? (request, answer) = none) :
    framework.putAll start [(request, answer)] = start := by
  simp [Framework.putAll, noPut]

/-- A query request puts no defaults. -/
theorem put?_of_query (asks : framework.kindOf? request = some kind)
    (answer : Except Failure Response) : framework.put? (request, answer) = none := by
  rw [Framework.put?, route_of_kindOf? asks]
  cases kind <;> rfl

theorem reads_of_query (asks : framework.kindOf? request = some kind)
    (answer : Except Failure Response) : framework.Reads (request, answer) := by
  intro found
  rw [route_of_kindOf? asks] at found
  cases kind <;> simp [Route.ofKind] at found

/-- A request that makes no query changes nothing but the defaults. -/
theorem kept_of_noQuery {answer : Except Failure Response} {defaults : Budget}
    (serviceable : Serviceable client) (tellable : Network.Tellable defaults.timeoutMs)
    (noQuery : framework.kindOf? request = none ∨ status? answer = some 422)
    (reads : framework.Reads (request, answer))
    (put : numbers defaults = framework.putAll (numbers client.defaults) [(request, answer)]) :
    framework.Kept client [(request, answer)] { client with defaults } := by
  have zero : ∀ status ≠ 422, framework.answered status [(request, answer)] = 0 := by
    intro status other
    rw [answered_one]
    rcases noQuery with noQuery | invalid
    · rw [noQuery]
      rfl
    · simp [invalid, Ne.symm other]
  have totals : ∀ counter, Client.total { client with defaults } counter = client.total counter :=
    fun _ => rfl
  refine ⟨⟨serviceable.closing, serviceable.bothKinds, serviceable.timely, tellable⟩, put,
    List.forall_mem_singleton.mpr reads, ?_, ?_, ?_, ?_, ?_⟩
  · intro exchange mem asks
    obtain rfl := List.mem_singleton.mp mem
    rcases noQuery with noQuery | invalid
    · simp [noQuery] at asks
    · exact ⟨422, by simp [queryStatuses], invalid⟩
  · rw [zero _ (by simp), totals, Nat.add_zero]
  · rw [zero _ (by simp), totals, Nat.add_zero]
  · rw [zero _ (by simp), totals, Nat.add_zero]
  · rw [zero _ (by simp), zero _ (by simp), zero _ (by simp), totals]
    rfl

/-- A request that neither makes a query nor puts defaults changes nothing. -/
theorem kept_of_unchanged {answer : Except Failure Response} (serviceable : Serviceable client)
    (noQuery : framework.kindOf? request = none ∨ status? answer = some 422)
    (reads : framework.Reads (request, answer))
    (noPut : framework.put? (request, answer) = none) :
    framework.Kept client [(request, answer)] client :=
  kept_of_noQuery serviceable serviceable.tellable noQuery reads (putAll_of_noPut noPut).symm

namespace Reply

variable {call : Call} {answer : Except Failure Response}

/-- A query is accepted unless it is answered 400. -/
theorem accepted (reply : Reply client call answer) :
    (client.accept call.request).toBool = decide (status? answer ≠ some 400) := by
  cases reply with
  | result returned => exact Client.accept_of_outcome (by simp [returned]) (by simp [returned])
  | address failed =>
    cases accepts : client.accept call.request with
    | ok accepts =>
      rcases Client.reported_perform accepts failed with same | ⟨refusal, message, same⟩
      · simp [QueryError.unanswered] at same
      · cases refusal <;> simp [Refusal.error] at same
    | error failure => rfl
  | silence failed => exact Client.accept_of_outcome (by simp [failed]) (by simp [failed])
  | @refusal refusal message failed =>
    apply Client.accept_of_outcome
    · cases refusal <;> simp [failed, Refusal.error]
    · cases refusal <;> simp [failed, Refusal.error]

/-- The status of an answer tells how the query ended. -/
theorem outcome (reply : Reply client call answer) :
    (client.perform call).1.toBool = decide (status? answer = some 200) ∧
      isUnanswered (client.perform call).1 = decide (status? answer = some 504) ∧
      (decide (status? answer ≠ some 400) && Client.isReportedOther (client.perform call).1) =
        decide (status? answer = some 502) := by
  cases reply with
  | result returned => rw [returned]; exact ⟨rfl, rfl, rfl⟩
  | address failed => rw [failed]; exact ⟨rfl, rfl, rfl⟩
  | silence failed => rw [failed]; exact ⟨rfl, rfl, rfl⟩
  | @refusal refusal message failed => rw [failed]; cases refusal <;> exact ⟨rfl, rfl, rfl⟩

theorem status (reply : Reply client call answer) :
    ∃ status ∈ queryStatuses, status? answer = some status := by
  cases reply with
  | result => exact ⟨200, by simp [queryStatuses], rfl⟩
  | address => exact ⟨400, by simp [queryStatuses], rfl⟩
  | silence => exact ⟨504, by simp [queryStatuses], rfl⟩
  | refusal => exact ⟨502, by simp [queryStatuses], rfl⟩

/-- The answer to a query tells what it has added to the metrics. -/
theorem kept (reply : Reply client call answer) (serviceable : Serviceable client)
    (asks : framework.kindOf? request = some kind)
    (clocked : client.network.Clocked (client.perform call).2.network) :
    framework.Kept client [(request, answer)] (client.perform call).2 := by
  have counted := Client.counted_perform serviceable.bothKinds call
  have accepted := reply.accepted
  obtain ⟨returned, silent, refused⟩ := reply.outcome
  have defaults : (client.perform call).2.defaults = client.defaults :=
    (Client.onward_carried.perform client call).defaults
  have closing := (Client.abates_carried.perform client call serviceable.closing).1
  have adds : ∀ status, framework.answered status [(request, answer)] =
      (decide (status? answer = some status)).toNat := by
    intro status
    rw [answered_one, asks]
    rfl
  refine ⟨⟨closing, counted.bothKinds, Client.isTimely_perform serviceable.timely call clocked,
    by rw [defaults]; exact serviceable.tellable⟩, ?_,
    List.forall_mem_singleton.mpr (reads_of_query asks answer), ?_, ?_, ?_, ?_, ?_⟩
  · rw [defaults, putAll_of_noPut (put?_of_query asks answer)]
  · intro exchange mem _
    rw [List.mem_singleton.mp mem]
    exact reply.status
  · rw [counted.succeeded, adds, returned]
  · rw [counted.noResponse, adds, silent]
  · rw [counted.transportErrors, adds, accepted, refused]
  · rw [counted.queries, adds, adds, adds, accepted]
    cases reply <;> rfl

end Reply

/-- Defaults are changed as the answer tells. -/
theorem kept_changeDefaults (lawful : framework.Lawful) (serviceable : Serviceable client)
    (found : framework.route request = .ok .changeDefaults)
    (tellable : framework.GivesTellable request) :
    framework.Kept client [(request, (framework.onClient .changeDefaults request client).1)]
      (framework.onClient .changeDefaults request client).2 := by
  have noQuery : framework.kindOf? request = none := by rw [Framework.kindOf?, found]
  rw [Framework.onClient]
  cases read : framework.defaults request with
  | error response =>
    refine kept_of_unchanged serviceable (.inl noQuery) ?_ (by simp [Framework.put?, found, read])
    intro _ accepted
    have status : response.status = 200 := Option.some.inj accepted
    have other := lawful.unput request response read
    omega
  | ok put =>
    obtain ⟨retries, timeoutMs⟩ := put
    simp only [Client.updateDefaults]
    cases made : client.defaults.override retries timeoutMs with
    | error error =>
      obtain ⟨message, rfl⟩ := Budget.override_error made
      have refused : status? (.ok (errorResponse (.argument message))) ≠ some 200 := by
        simp [status?, errorResponse, statusOf, detail, Except.toOption]
      exact kept_of_unchanged serviceable (.inl noQuery) (fun _ accepted => absurd accepted refused)
        (by simp [Framework.put?, found, read, refused])
    | ok defaults =>
      have answer : framework.put? (request, .ok ⟨200, defaultsBody defaults⟩) =
          some (retries, timeoutMs) := by
        simp [Framework.put?, found, read, status?, Except.toOption]
      obtain ⟨attempts, timeout⟩ := Budget.override_numbers made
      have told := Budget.override_timeoutMs made serviceable.tellable (tellable.defaults _ read)
      refine kept_of_noQuery serviceable told (.inl noQuery)
        (fun _ _ => ⟨_, answer, lawful.puts request _ read⟩) ?_
      simp only [Framework.putAll, List.filterMap_cons, List.filterMap_nil, answer,
          List.foldl_cons, List.foldl_nil, replace, numbers, attempts, timeout]

/-- Every request leaves a client on the same network. -/
theorem steady_handle (framework : Framework) (client : Client) (request : Request) :
    ∃ answer next, framework.handle request (some client) = (answer, some next) ∧
      client.channel.Steady next.channel := by
  cases asks : framework.kindOf? request with
  | some kind =>
    cases read : framework.query request with
    | error response => exact ⟨_, _, handle_unasked asks read, .refl _⟩
    | ok query =>
      obtain ⟨shown, handled⟩ := handle_query client asks read
      exact ⟨_, _, handled, (Client.onward_carried.perform client _).steady⟩
  | none =>
    cases found : framework.route request with
    | error response => exact ⟨.ok response, client, by simp only [Framework.handle, found], .refl _⟩
    | ok route =>
      refine ⟨_, _, handle_of_route found, ?_⟩
      cases route with
      | status => simp [Framework.kindOf?, found] at asks
      | time => simp [Framework.kindOf?, found] at asks
      | changeDefaults =>
        rw [Framework.onClient]
        cases framework.defaults request with
        | error response => exact .refl _
        | ok put =>
          simp only [Client.updateDefaults]
          cases client.defaults.override put.1 put.2 with
          | error error => exact .refl _
          | ok defaults => exact .of_unmoved rfl rfl id rfl rfl
      | _ => exact .refl _

/-- The answer to a request tells what has changed. -/
theorem kept_handle (lawful : framework.Lawful) (serviceable : Serviceable client)
    (tellable : framework.GivesTellable request) {answer : Except Failure Response}
    {next : Client} (handled : framework.handle request (some client) = (answer, some next))
    (clocked : client.network.Clocked next.network) :
    framework.Kept client [(request, answer)] next := by
  cases asks : framework.kindOf? request with
  | some kind =>
    cases read : framework.query request with
    | error response =>
      rw [handle_unasked asks read, Prod.mk.injEq, Option.some.injEq] at handled
      obtain ⟨rfl, rfl⟩ := handled
      have status : status? (.ok response) = some 422 :=
        congrArg some (lawful.unasked request response read)
      exact kept_of_unchanged serviceable (.inr status) (reads_of_query asks _)
        (put?_of_query asks _)
    | ok query =>
      obtain ⟨shown, queried⟩ := handle_query client asks read
      rw [queried, Prod.mk.injEq, Option.some.injEq] at handled
      obtain ⟨rfl, rfl⟩ := handled
      have told := Budget.getD_of_replaced serviceable.tellable (tellable.query query read)
      have reply := reply_query serviceable.closing (lawful.asks request query read) told clocked shown
      exact reply.kept serviceable asks clocked
  | none =>
    cases found : framework.route request with
    | error response =>
      simp only [Framework.handle, found, Prod.mk.injEq, Option.some.injEq] at handled
      obtain ⟨rfl, rfl⟩ := handled
      exact kept_of_unchanged serviceable (.inl asks) (by simp [Framework.Reads, found])
        (by rw [Framework.put?, found])
    | ok route =>
      rw [handle_of_route found, Prod.mk.injEq, Option.some.injEq] at handled
      obtain ⟨rfl, rfl⟩ := handled
      cases route with
      | status => simp [Framework.kindOf?, found] at asks
      | time => simp [Framework.kindOf?, found] at asks
      | changeDefaults => exact kept_changeDefaults lawful serviceable found tellable
      | _ =>
        exact kept_of_unchanged serviceable (.inl asks) (by simp [Framework.Reads, found])
          (by rw [Framework.put?, found])

/-- Requests are answered one after the other. -/
theorem steady_serve (framework : Framework) (client : Client) (requests : List Request) :
    ∃ exchanges last, framework.serve (some client) requests = (exchanges, some last) ∧
      exchanges.map Prod.fst = requests ∧ client.channel.Steady last.channel := by
  induction requests generalizing client with
  | nil => exact ⟨[], client, rfl, rfl, .refl _⟩
  | cons request requests ih =>
    obtain ⟨answer, next, handled, first⟩ := steady_handle framework client request
    obtain ⟨exchanges, last, served, same, rest⟩ := ih next
    refine ⟨(request, answer) :: exchanges, last, ?_, ?_, first.trans rest⟩
    · rw [Framework.serve, handled, served]
    · rw [List.map_cons, same]

/-- The answers to requests tell what has changed. -/
theorem kept_serve (lawful : framework.Lawful) (serviceable : Serviceable client)
    {requests : List Request} (tellable : ∀ request ∈ requests, framework.GivesTellable request)
    {exchanges : Exchanges} {last : Client}
    (served : framework.serve (some client) requests = (exchanges, some last))
    (clocked : client.network.Clocked last.network) : framework.Kept client exchanges last := by
  induction requests generalizing client exchanges with
  | nil =>
    rw [Framework.serve, Prod.mk.injEq, Option.some.injEq] at served
    obtain ⟨rfl, rfl⟩ := served
    exact .refl serviceable
  | cons request requests ih =>
    rw [List.forall_mem_cons] at tellable
    obtain ⟨answer, next, handled, first⟩ := steady_handle framework client request
    obtain ⟨others, end', followed, -, rest⟩ := steady_serve framework next requests
    rw [Framework.serve, handled, followed, Prod.mk.injEq, Option.some.injEq] at served
    obtain ⟨rfl, rfl⟩ := served
    -- Both parts of the run have clocks of a machine, because the whole has.
    have one := kept_handle lawful serviceable tellable.1 handled (clocked.before first rest)
    exact one.trans (ih one.serviceable tellable.2 followed (clocked.after first rest))

/-! ### The metrics that are shown -/

/-- The names of counters that tell how queries ended. -/
def counterNames : List (Counter × String) :=
  [(.queries, "queries"), (.succeeded, "succeeded"), (.noResponse, "no_response"),
   (.transportErrors, "transport_errors")]

theorem member?_record {stats : KindStats} {name : String} {shown : Json}
    (h : stats.record name = .ok shown) :
    ∀ entry ∈ counterNames, shown.member? entry.2 = some (.whole (stats.counter entry.1)) := by
  obtain ⟨mean, median, p95, rfl⟩ := KindStats.object_record h
  simp only [counterNames, List.mem_cons, List.not_mem_nil, or_false, forall_eq_or_imp, forall_eq]
  exact ⟨rfl, rfl, rfl, rfl⟩

/-- Metrics are shown, and they sum up to the totals. -/
theorem handle_metrics (serviceable : Serviceable client)
    (found : framework.route request = .ok .metrics) :
    ∃ body, framework.handle request (some client) = (.ok ⟨200, body⟩, some client) ∧
      ∀ entry ∈ counterNames, ∃ status time : Nat,
        body.at? ["stats", "by_kind", "status", entry.2] = some (.whole status) ∧
          body.at? ["stats", "by_kind", "time", entry.2] = some (.whole time) ∧
          status + time = client.total entry.1 := by
  have both := serviceable.bothKinds
  obtain ⟨stats, snapshot⟩ := both.snapshot_of_timely serviceable.timely client.now
  obtain ⟨status, time, statusRecord, timeRecord, byKind⟩ := both.byKind_snapshot snapshot
  refine ⟨.object [("stats", stats), ("events", .list
    ((client.record.metrics.recentFailures 20).map RecentFailure.record))], ?_, ?_⟩
  · rw [handle_of_route found, Framework.onClient]
    simp only [snapshot]
    rfl
  · intro entry mem
    refine ⟨_, _, ?_, ?_, (both.total (·.counter entry.1)).symm⟩
    · show (stats.member? "by_kind").bind _ = _
      rw [byKind]
      show (status.member? entry.2).bind some = _
      rw [member?_record statusRecord entry mem]
      rfl
    · show (stats.member? "by_kind").bind _ = _
      rw [byKind]
      show (time.member? entry.2).bind some = _
      rw [member?_record timeRecord entry mem]
      rfl

/-- What a service holds after it has answered requests. -/
structure Framework.History (framework : Framework) (exchanges : Exchanges) (client : Client) :
    Prop where
  defaults : numbers client.defaults = framework.putAll (2, 2000) exchanges
  valid : 0 ≤ (framework.putAll (2, 2000) exchanges).1 ∧
    0 < (framework.putAll (2, 2000) exchanges).2
  /-- What was put with an answer of 200 was read as the body says. -/
  put : ∀ exchange ∈ exchanges, exchange.1.IsFor .changeDefaults → status? exchange.2 = some 200 →
    ∃ numbers, framework.put? exchange = some numbers ∧ exchange.1.Puts numbers
  /-- How the next request is answered that asks for the defaults. -/
  shown : ∀ request, request.IsFor .showDefaults →
    framework.handle request (some client) = (.ok ⟨200, .object
      [("retries", .whole (framework.putAll (2, 2000) exchanges).1),
       ("timeout_ms", .whole (framework.putAll (2, 2000) exchanges).2)]⟩, some client)
  /-- How the next request is answered that asks for a query with parameters that are not valid. -/
  unasked : ∀ request kind response, request.IsFor (.ofKind kind) →
    framework.query request = .error response →
      response.status = 422 ∧
        framework.handle request (some client) = (.ok response, some client)
  /-- How the next request is answered that asks for a query. -/
  query : ∀ request kind query, request.IsFor (.ofKind kind) →
    framework.query request = .ok query → request.Asks query ∧
    (∀ budget destination, client.accept query = .ok (budget, destination) →
      (budget.retries : Int) = query.retries.getD (framework.putAll (2, 2000) exchanges).1 ∧
        (budget.timeoutMs : Int) =
          query.timeoutMs.getD (framework.putAll (2, 2000) exchanges).2) ∧
    ∃ response, framework.handle request (some client) =
        (response, some (client.perform (.ofKind kind query)).2) ∧
      (Network.Tellable (query.timeoutMs.getD (framework.putAll (2, 2000) exchanges).2) →
        client.network.Clocked (client.perform (.ofKind kind query)).2.network →
          Reply client (.ofKind kind query) response)
  /-- How queries were answered. -/
  statuses : ∀ exchange ∈ exchanges, ∀ kind, exchange.1.IsFor (.ofKind kind) →
    ∃ status ∈ queryStatuses, status? exchange.2 = some status
  succeeded : client.total .succeeded = framework.answered 200 exchanges
  noResponse : client.total .noResponse = framework.answered 504 exchanges
  transportErrors : client.total .transportErrors = framework.answered 502 exchanges
  queries : client.total .queries =
    client.total .succeeded + client.total .noResponse + client.total .transportErrors
  /-- What the next request is shown that asks for the metrics. -/
  metrics : ∀ request, request.IsFor .metrics →
    ∃ body, framework.handle request (some client) = (.ok ⟨200, body⟩, some client) ∧
      ∀ entry ∈ counterNames, ∃ status time : Nat,
        body.at? ["stats", "by_kind", "status", entry.2] = some (.whole status) ∧
          body.at? ["stats", "by_kind", "time", entry.2] = some (.whole time) ∧
          status + time = client.total entry.1

/-- A client that is served with tells what it holds. -/
theorem Framework.Kept.history (lawful : framework.Lawful) {network : Network}
    {exchanges : Exchanges} {last : Client}
    (kept : framework.Kept (.onNetwork network none) exchanges last) :
    framework.History exchanges last := by
  have defaults : numbers last.defaults = framework.putAll (2, 2000) exchanges := kept.defaults
  have fresh : ∀ counter, (Client.onNetwork network none).total counter = 0 := by
    intro counter
    cases counter <;> rfl
  have asks : ∀ {request kind}, Request.IsFor request (.ofKind kind) →
      framework.kindOf? request = some kind :=
    fun declared => kindOf?_of_route (lawful.routed _ _ declared)
  refine ⟨defaults, ?_, ?_, ?_, ?_, ?_, ?_, ?_, ?_, ?_, ?_, ?_⟩
  · rw [← defaults]
    exact ⟨Int.natCast_nonneg _, Int.natCast_pos.mpr last.defaults.timeout_pos⟩
  · exact fun exchange mem declared => kept.reads exchange mem (lawful.routed _ _ declared)
  · intro request declared
    rw [handle_of_route (lawful.routed _ _ declared), ← defaults]
    rfl
  · exact fun request kind response declared unread =>
      ⟨lawful.unasked request response unread, handle_unasked (asks declared) unread⟩
  · intro request kind query declared read
    have valid := lawful.asks request query read
    obtain ⟨shown, handled⟩ := handle_query last (asks declared) read
    refine ⟨valid, ?_, _, handled, ?_⟩
    · intro budget destination accepted
      rw [← defaults]
      exact Budget.override_numbers (Client.override_of_accept accepted)
    · intro tellable clocked
      rw [← defaults] at tellable
      exact reply_query kept.serviceable.closing valid tellable clocked shown
  · exact fun exchange mem kind declared =>
      kept.statuses exchange mem (by rw [asks declared]; rfl)
  · rw [kept.succeeded, fresh, Nat.zero_add]
  · rw [kept.noResponse, fresh, Nat.zero_add]
  · rw [kept.transportErrors, fresh, Nat.zero_add]
  · rw [kept.queries, kept.succeeded, kept.noResponse, kept.transportErrors]
    simp only [fresh, Nat.zero_add]
  · exact fun request declared => handle_metrics kept.serviceable (lawful.routed _ _ declared)

/-- A service with a new client, after any requests. -/
theorem history_serve (framework : Framework) (lawful : framework.Lawful) (network : Network)
    (requests : List Request) (closing : refused network.faults.close = 0)
    (tellable : ∀ request ∈ requests, framework.GivesTellable request) :
    ∃ exchanges client, framework.serve (some (.onNetwork network none)) requests =
        (exchanges, some client) ∧ exchanges.map Prod.fst = requests ∧
      (network.Clocked client.network → framework.History exchanges client) := by
  obtain ⟨exchanges, last, served, same, -⟩ :=
    steady_serve framework (.onNetwork network none) requests
  have serviceable : Serviceable (.onNetwork network none) :=
    ⟨closing, rfl, Metrics.isTimely_fresh _,
      Network.tellable_of_lt (by decide : (2000 : Int) < Network.exactWaitMs)⟩
  exact ⟨exchanges, last, served, same, fun clocked =>
    (kept_serve lawful serviceable tellable served clocked).history lawful⟩

/-- Defaults that are put, queries with each of the answers, numbers that are refused, and metrics. -/
theorem history_serve_mixed :
    let network : Network :=
      { station := some { endpoint := ⟨"127.0.0.1", 12300⟩ }
        faults := { send := [none, some "no route"] } }
    let put (body : Json) : Request :=
      { method := "PUT", target := { path := "/ntp/defaults".toList, params := [] },
        body := some body }
    let get (path : String) (params : List (String × String)) : Request :=
      { method := "GET", target := { path := path.toList, params } }
    let requests : List Request :=
      [put (.object [("retries", .whole 0)]),
       get "/ntp/time" [("host", "127.0.0.1"), ("port", "12300")],
       get "/ntp/time" [("host", "127.0.0.1"), ("port", "12300")],
       get "/ntp/status" [("host", "nowhere")],
       get "/ntp/status" [("host", "127.0.0.1"), ("timeout_ms", "1")],
       put (.object [("timeout_ms", .whole 0)]),
       get "/metrics" []]
    refused network.faults.close = 0 ∧ ∃ exchanges client,
      standard.serve (some (.onNetwork network none)) requests = (exchanges, some client) ∧
        exchanges.map (fun exchange => status? exchange.2) =
          [some 200, some 200, some 502, some 400, some 504, some 422, some 200] ∧
        standard.History exchanges client := by
  intro network put get requests
  have short : ∀ request ∈ requests,
      (∀ n ∈ (standard.query request).toOption.bind (·.timeoutMs), n < Network.exactWaitMs) ∧
        ∀ n ∈ (standard.defaults request).toOption.bind (·.2), n < Network.exactWaitMs := by
    decide +kernel
  have tellable : ∀ request ∈ requests, standard.GivesTellable request := by
    intro request mem
    refine ⟨?_, ?_⟩
    · intro query read n given
      exact Network.tellable_of_lt ((short request mem).1 n (by rw [read]; exact given))
    · intro numbers read n given
      exact Network.tellable_of_lt ((short request mem).2 n (by rw [read]; exact given))
  obtain ⟨exchanges, client, served, -, history⟩ :=
    history_serve standard lawful_standard network requests rfl tellable
  have ends : (standard.serve (some (.onNetwork network none)) requests).1.map
      (fun exchange => status? exchange.2) =
        [some 200, some 200, some 502, some 400, some 504, some 422, some 200] ∧
      ∀ last ∈ (standard.serve (some (.onNetwork network none)) requests).2,
        last.network.clock < 2 ^ 60 ∧ last.network.wallMs.natAbs < 2 ^ 60 := by
    decide +kernel
  rw [served] at ends
  obtain ⟨elapsed, late⟩ := ends.2 client rfl
  have early : network.wallMs.natAbs < 2 ^ 60 := by decide
  have range := Binary64.two_pow_le_largest
  have clocked : network.Clocked client.network :=
    ⟨rfl, by simp only [network, Int.sub_zero]; omega, by omega, by omega⟩
  exact ⟨rfl, exchanges, client, served, ends.1, history clocked⟩

end Http

end NtpQuery
