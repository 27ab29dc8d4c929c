import NtpQuery.Proofs.Client.Query
import NtpQuery.Proofs.Exchange.Honesty
import NtpQuery.Proofs.Exchange.Mailing
import NtpQuery.Proofs.VariableList
import NtpQuery.Proofs.Wire.Client

/-!
# What goes on the wire

A run of queries is a sequence of exchanges, and `Client.inquiriesAll` lists
them: for a status query the fetch of the server's variables and, where the
server names a peer, the follow-up; for a time query the one exchange; nothing
for a query that is refused. All that a run sends is sent in one of them.

The fetches of a run are numbered without gaps, whatever becomes of them, and
all datagrams of a fetch are one request with its number. Requests for the time
carry no number; each says when it left itself.
-/

namespace NtpQuery

open Wire

/-- What an exchange asks for. -/
inductive Subject where
  | server
  | peer (association : Nat)
  | time
  deriving DecidableEq, Repr

/-- An exchange of a run, with the clients before and after it. -/
structure Inquiry where
  subject : Subject
  before : Client
  after : Client

namespace Inquiry

/-- Whether variables are fetched. -/
def fetches (inquiry : Inquiry) : Bool := inquiry.subject ≠ .time

/-- The datagrams that were sent, the first one first. -/
def sent (inquiry : Inquiry) : List SentDatagram :=
  (inquiry.after.network.sentRev.take
    (inquiry.after.network.sentRev.length - inquiry.before.network.sentRev.length)).reverse

theorem sent_eq {subject : Subject} {before after : Client} {requests : List SentDatagram}
    (record : after.network.sentRev = requests ++ before.network.sentRev) :
    Inquiry.sent ⟨subject, before, after⟩ = requests.reverse := by
  simp [sent, record]

/-- All that was sent is one request, which asks for the given variables. -/
structure Asks (inquiry : Inquiry) (association : Int) (names : String) (number : Int)
    (payload : Bytes) (packet : ControlPacket) : Prop where
  taken : inquiry.after.channel.session.sequence = number
  sent : ∀ one ∈ inquiry.sent, one.data = payload
  size : payload.length = 512
  read : ControlPacket.decode payload = .ok packet
  version : packet.version = 3
  mode : packet.mode = 6
  op : packet.op = 2
  request : packet.isResponse = false
  sequence : packet.sequence = number
  status : packet.status = 0
  offset : packet.offset = 0
  association : packet.association = association
  count : packet.count = names.length
  data : packet.data =
    ControlPacket.asciiBytes names ++ List.replicate (500 - names.length) 0

/-- What a fetch with the given number asks. -/
def Fetches (inquiry : Inquiry) (number : Int) : Prop :=
  match inquiry.subject with
  | .server =>
    ∃ payload packet, inquiry.Asks 0 ControlPacket.systemVariables number payload packet
  | .peer association =>
    0 < association ∧ association < 65536 ∧
      ∃ payload packet,
        inquiry.Asks association ControlPacket.peerVariables number payload packet
  | .time => False

/-- What is asked for the time: each datagram is the request of the second at which it left. -/
structure Times (inquiry : Inquiry) (wallOffset : Int) (one : SentDatagram)
    (packet : ClientPacket) : Prop where
  size : one.data.length = 48
  read : ClientPacket.decode one.data = .ok packet
  version : packet.version = 3
  mode : packet.mode = 3
  fields : packet =
    { leapVersionMode := packet.leapVersionMode
      transmitSeconds := toNtpSeconds (Network.wholeSeconds (one.time + wallOffset)) }

end Inquiry

namespace Client

/-- The follow-up to a system text; there is one when the text names a peer. -/
def followUpInquiries (client : Client) (budget : Budget) (destination : Endpoint) (text : String) :
    List Inquiry :=
  match VariableList.peerAssociation? text with
  | some (some association) =>
    [⟨.peer association, client, (client.fetchVariables budget destination association).2⟩]
  | _ => []

/-- The exchanges of a status query. -/
def statusInquiries (client : Client) (request : Request) : List Inquiry :=
  match client.accept request with
  | .error _ => []
  | .ok (budget, destination) =>
    let started := client.start .status budget destination
    let fetched := started.fetchVariables budget destination 0
    ⟨.server, started, fetched.2⟩ ::
      match fetched.1 with
      | .error _ => []
      | .ok answer => fetched.2.followUpInquiries budget destination answer.packet.text

/-- The exchange of a time query. -/
def timeInquiries (client : Client) (request : Request) : List Inquiry :=
  match client.accept request with
  | .error _ => []
  | .ok (budget, destination) =>
    [⟨.time, client.start .time budget destination, client.afterAsking budget destination⟩]

def inquiries (client : Client) : Call → List Inquiry
  | .status request => client.statusInquiries request
  | .time request => client.timeInquiries request

/-- The exchanges of a run, in order. -/
def inquiriesAll (client : Client) : List Call → List Inquiry
  | [] => []
  | call :: calls => client.inquiries call ++ (client.perform call).2.inquiriesAll calls

/-- Everything that was sent and every number that was taken between two clients belongs to the
exchanges between them. -/
structure Spans (client : Client) (inquiries : List Inquiry) (after : Client) : Prop where
  fetches : ∀ (n : Nat) inquiry, (inquiries.filter Inquiry.fetches)[n]? = some inquiry →
    inquiry.Fetches ((client.channel.session.sequence + (n + 1)) % 65536)
  times : ∀ inquiry ∈ inquiries, inquiry.subject = .time → ∀ one ∈ inquiry.sent,
    ∃ packet, inquiry.Times client.network.wallOffset one packet
  sent : after.network.sentRev =
    (inquiries.flatMap Inquiry.sent).reverse ++ client.network.sentRev
  sequence : after.channel.session.sequence =
    if inquiries.countP Inquiry.fetches = 0 then client.channel.session.sequence
    else (client.channel.session.sequence + inquiries.countP Inquiry.fetches) % 65536
  wallOffset : after.network.wallOffset = client.network.wallOffset

namespace Spans

variable {client after : Client}

theorem of_channel (same : after.channel = client.channel) : client.Spans [] after := by
  have network : after.network = client.network := congrArg Channel.network same
  refine ⟨by simp, by simp, ?_, ?_, ?_⟩
  · rw [network]
    rfl
  · rw [same]
    rfl
  · rw [network]

theorem trans {middle : Client} {earlier later : List Inquiry} (h : client.Spans earlier middle)
    (h' : middle.Spans later after) : client.Spans (earlier ++ later) after := by
  have congruent : middle.channel.session.sequence % 65536 =
      (client.channel.session.sequence + earlier.countP Inquiry.fetches) % 65536 := by
    rw [h.sequence]
    split
    · rename_i none
      simp [none]
    · exact Int.emod_emod_of_dvd _ (Int.dvd_refl _)
  refine ⟨?_, ?_, ?_, ?_, h'.wallOffset.trans h.wallOffset⟩
  · intro n inquiry mem
    rw [List.filter_append] at mem
    by_cases first : n < (earlier.filter Inquiry.fetches).length
    · rw [List.getElem?_append_left first] at mem
      exact h.fetches n inquiry mem
    · rw [List.getElem?_append_right (Nat.not_lt.mp first)] at mem
      have asked := h'.fetches _ inquiry mem
      rw [← List.countP_eq_length_filter] at asked first
      have number : (middle.channel.session.sequence +
          ((n - earlier.countP Inquiry.fetches : Nat) + 1)) % 65536 =
          (client.channel.session.sequence + (n + 1)) % 65536 := by
        omega
      rwa [number] at asked
  · intro inquiry mem timed
    rcases List.mem_append.mp mem with mem | mem
    · exact h.times inquiry mem timed
    · rw [← h.wallOffset]
      exact h'.times inquiry mem timed
  · rw [h'.sent, h.sent, List.flatMap_append, List.reverse_append, List.append_assoc]
  · have sequence := h'.sequence
    rw [List.countP_append]
    split at sequence
    · rename_i none
      rw [sequence, none, Nat.add_zero]
      exact h.sequence
    · rename_i some
      rw [sequence, if_neg (by omega)]
      omega

/-- Taking notes is no exchange. -/
theorem noted {middle : Client} {inquiries : List Inquiry} (h : client.Spans inquiries middle)
    (same : after.channel = middle.channel) : client.Spans inquiries after := by
  have extended := h.trans (of_channel same)
  rwa [List.append_nil] at extended

end Spans

/-- A fetch takes the next number, and all that it sends is the request with this number. -/
structure Fetching (client : Client) (association : Int) (payload : Bytes)
    (requests : List SentDatagram) (after : Client) : Prop where
  written : ControlPacket.request 2 association
    ((client.channel.session.sequence + 1) % 65536) = .ok payload
  record : after.network.sentRev = requests ++ client.network.sentRev
  own : ∀ one ∈ requests, one.data = payload
  sequence : after.channel.session.sequence = (client.channel.session.sequence + 1) % 65536
  wallOffset : after.network.wallOffset = client.network.wallOffset

theorem fetching_fetchVariables (client : Client) (budget : Budget) (destination : Endpoint)
    (association : Int) :
    ∃ payload requests,
      client.Fetching association payload requests
        (client.fetchVariables budget destination association).2 := by
  obtain ⟨payload, written, run⟩ := client.fetchVariables_eq budget destination association
  rw [run]
  obtain ⟨⟨requests, record, own⟩, wallOffset⟩ :=
    (Exchange.Mailed.carried (variablesExchange budget destination association
      client.numbered.channel.session.sequence payload)).run client.numbered.channel
  have kept :=
    ((Exchange.Traffic.carried (variablesExchange budget destination association
      client.numbered.channel.session.sequence payload)).run client.numbered.channel).sequence
  refine ⟨payload, requests, written, record, fun one mem => ?_, kept, wallOffset⟩
  obtain ⟨attempt, same⟩ := own one mem
  rw [same]
  rfl

theorem Fetching.asks {client after : Client} {association : Int} {payload : Bytes}
    {requests : List SentDatagram} (fetching : client.Fetching association payload requests after)
    (subject : Subject) (lower : 0 ≤ association) (upper : association < 65536) :
    Inquiry.Asks ⟨subject, client, after⟩ association (ControlPacket.variablesFor association)
      ((client.channel.session.sequence + 1) % 65536) payload
      (ControlPacket.question association ((client.channel.session.sequence + 1) % 65536)) := by
  obtain ⟨same, written, size, read⟩ :=
    ControlPacket.request_spec association ((client.channel.session.sequence + 1) % 65536)
  obtain rfl := Except.ok.inj (fetching.written.symm.trans written)
  have names : (ControlPacket.asciiBytes (ControlPacket.variablesFor association)).length =
      (ControlPacket.variablesFor association).length := by
    rw [ControlPacket.asciiBytes, List.length_map, String.length_toList]
  refine ⟨fetching.sequence, ?_, size, read, rfl, rfl, rfl, rfl,
    Int.emod_emod_of_dvd _ (Int.dvd_refl _), rfl, rfl, Int.emod_eq_of_lt lower upper, ?_, ?_⟩
  · intro one mem
    rw [Inquiry.sent_eq fetching.record, List.mem_reverse] at mem
    exact fetching.own one mem
  · rw [← names]
    rfl
  · rw [← names]
    rfl

/-- One exchange that takes a number. -/
theorem spans_fetch {subject : Subject} {client : Client} {budget : Budget}
    {destination : Endpoint} {association : Int}
    (about : subject = .server ∧ association = 0 ∨
      ∃ peer : Nat, subject = .peer peer ∧ association = peer ∧ 0 < peer ∧ peer < 65536) :
    client.Spans
      [⟨subject, client, (client.fetchVariables budget destination association).2⟩]
      (client.fetchVariables budget destination association).2 := by
  obtain ⟨payload, requests, fetching⟩ :=
    client.fetching_fetchVariables budget destination association
  have fetches : subject ≠ .time := by
    rcases about with ⟨rfl, -⟩ | ⟨peer, rfl, -⟩
    · simp
    · simp
  generalize (client.fetchVariables budget destination association).2 = after at fetching
  have counted : Inquiry.fetches ⟨subject, client, after⟩ = true := by
    simp [Inquiry.fetches, fetches]
  refine ⟨?_, ?_, ?_, ?_, fetching.wallOffset⟩
  · intro n inquiry mem
    rw [List.filter_cons_of_pos counted] at mem
    cases n with
    | succ n => simp at mem
    | zero =>
      obtain rfl := Option.some.inj mem
      rcases about with ⟨rfl, rfl⟩ | ⟨peer, rfl, rfl, positive, small⟩
      · exact ⟨payload, _, fetching.asks .server (by decide) (by decide)⟩
      · have asks := fetching.asks (.peer peer) (by omega) (by omega)
        rw [ControlPacket.variablesFor, if_neg (by omega)] at asks
        exact ⟨positive, small, payload, _, asks⟩
  · intro inquiry mem timed
    rw [List.mem_singleton.mp mem] at timed
    exact absurd timed fetches
  · simp [Inquiry.sent_eq fetching.record, fetching.record]
  · simp [counted, fetching.sequence]

theorem sent_afterAsking {client : Client} {budget : Budget} {destination : Endpoint}
    {requests : List SentDatagram}
    (record : ((timeExchange budget destination).run client.channel).channel.network.sentRev =
      requests ++ client.channel.network.sentRev) :
    Inquiry.sent
      ⟨.time, client.start .time budget destination, client.afterAsking budget destination⟩ =
        requests.reverse :=
  Inquiry.sent_eq record

/-- One exchange that takes no number. -/
theorem spans_ask (client : Client) (budget : Budget) (destination : Endpoint) :
    client.Spans
      [⟨.time, client.start .time budget destination, client.afterAsking budget destination⟩]
      (client.afterAsking budget destination) := by
  obtain ⟨⟨requests, record, own⟩, wallOffset⟩ :=
    (Exchange.Mailed.carried (timeExchange budget destination)).run client.channel
  have kept :=
    ((Exchange.Traffic.carried (timeExchange budget destination)).run client.channel).sequence
  refine ⟨by simp [Inquiry.fetches], ?_, ?_, kept, wallOffset⟩
  · intro inquiry mem _ one asked
    rw [List.mem_singleton.mp mem, sent_afterAsking record, List.mem_reverse] at asked
    obtain ⟨attempt, same⟩ := own one asked
    have data : one.data =
        ClientPacket.request (Network.wholeSeconds (one.time + client.network.wallOffset)) := by
      rw [same]
      rfl
    refine ⟨ClientPacket.requestPacket
      (Network.wholeSeconds (one.time + client.network.wallOffset)), ?_, ?_, rfl, rfl, rfl⟩
    · rw [data]
      exact ClientPacket.length_request _
    · rw [data]
      exact ClientPacket.decode_request _
  · simp only [List.flatMap_singleton, sent_afterAsking record, List.reverse_reverse]
    exact record

theorem spans_fetchPeer (client : Client) (budget : Budget) (destination : Endpoint)
    (text : String) :
    client.Spans (client.followUpInquiries budget destination text)
      (client.fetchPeer budget destination text).2 := by
  have fetching : ∀ {association : Nat} {result : Except Failure (Answer ControlPacket) × Client},
      VariableList.peerAssociation? text = some (some association) →
      client.fetchVariables budget destination association = result →
      client.Spans [⟨.peer association, client, result.2⟩] result.2 := by
    rintro association _ named rfl
    obtain ⟨positive, small⟩ := VariableList.peerAssociation?_range named
    exact spans_fetch (.inr ⟨association, rfl, rfl, positive, small⟩)
  have followUp := followUp_fetchPeer client budget destination text
  generalize client.fetchPeer budget destination text = result at followUp ⊢
  rw [followUpInquiries]
  cases followUp with
  | unreadable peer =>
    simp only [peer]
    exact .of_channel rfl
  | needless peer =>
    simp only [peer]
    exact .of_channel rfl
  | answered peer fetched =>
    simp only [peer, fetched]
    exact fetching peer fetched
  | unanswered peer fetched =>
    simp only [peer, fetched]
    exact (fetching peer fetched).noted rfl
  | failed peer fetched =>
    simp only [peer, fetched]
    exact fetching peer fetched

theorem spans_queryStatus (client : Client) (request : Request) :
    client.Spans (client.statusInquiries request) (client.queryStatus request).2 := by
  have fetching : ∀ {budget : Budget} {destination : Endpoint}
      {result : Except Failure (Answer ControlPacket) × Client},
      (client.start .status budget destination).fetchVariables budget destination 0 = result →
      client.Spans [⟨.server, client.start .status budget destination, result.2⟩] result.2 := by
    rintro budget destination _ rfl
    have started : client.Spans [] (client.start .status budget destination) := .of_channel rfl
    exact started.trans (spans_fetch (.inl ⟨rfl, rfl⟩))
  have course := statusCourse_queryStatus client request
  generalize client.queryStatus request = result at course ⊢
  rw [statusInquiries]
  cases course with
  | refused refusal =>
    simp only [refusal]
    exact .of_channel rfl
  | @unanswered budget destination failure next accepted fetched =>
    simp only [accepted, fetched]
    exact (fetching fetched).noted (channel_fail next _ _)
  | @unfinished budget destination answer failure next last accepted fetched followed =>
    simp only [accepted, fetched]
    have follow := next.spans_fetchPeer budget destination answer.packet.text
    rw [followed] at follow
    exact (fetching fetched).trans follow
  | @answered budget destination answer peerText next last accepted fetched followed =>
    simp only [accepted, fetched]
    have follow := next.spans_fetchPeer budget destination answer.packet.text
    rw [followed] at follow
    exact ((fetching fetched).trans follow).noted rfl

theorem spans_queryTime (client : Client) (request : Request) :
    client.Spans (client.timeInquiries request) (client.queryTime request).2 := by
  have course := timeCourse_queryTime client request
  generalize client.queryTime request = result at course ⊢
  rw [timeInquiries]
  cases course with
  | refused refusal =>
    simp only [refusal]
    exact .of_channel rfl
  | unanswered accepted =>
    simp only [accepted]
    exact (client.spans_ask _ _).noted (channel_fail _ _ _)
  | uncomputed accepted =>
    simp only [accepted]
    exact client.spans_ask _ _
  | answered accepted =>
    simp only [accepted]
    exact (client.spans_ask _ _).noted rfl

theorem spans_perform (client : Client) (call : Call) :
    client.Spans (client.inquiries call) (client.perform call).2 := by
  cases call with
  | status request => exact client.spans_queryStatus request
  | time request => exact client.spans_queryTime request

theorem spans_performAll (client : Client) (calls : List Call) :
    client.Spans (client.inquiriesAll calls) (client.performAll calls).2 := by
  induction calls generalizing client with
  | nil => exact .of_channel rfl
  | cons call calls ih => exact (client.spans_perform call).trans (ih (client.perform call).2)

/-- A time query that gives a result compares with the second at which its last request left. -/
theorem departure_queryTime {client : Client} {request : Request} {result : TimeResult}
    (told : (client.queryTime request).1 = .ok result) :
    ∃ budget destination answer inquiry last,
      client.accept request = .ok (budget, destination) ∧
      ((timeExchange budget destination).run client.channel).outcome = .ok answer ∧
      client.timeInquiries request = [inquiry] ∧ inquiry.sent.getLast? = some last ∧
      TimeResult.ofAnswer answer.packet
        (Network.wholeSeconds (last.time + client.network.wallOffset) + Wire.epochOffset)
        (answer.receivedAt + Wire.epochOffset) = .ok result := by
  have course := timeCourse_queryTime client request
  generalize client.queryTime request = outcome at course told
  cases course with
  | refused => simp at told
  | unanswered => simp at told
  | uncomputed => simp at told
  | @answered budget destination answer _ accepted outcome computed =>
    obtain rfl := Except.ok.inj told
    obtain ⟨last, requests, record, sentAt⟩ := Exchange.departure_run outcome
    refine ⟨budget, destination, answer,
      ⟨.time, client.start .time budget destination, client.afterAsking budget destination⟩, last,
      accepted, outcome, ?_, ?_, ?_⟩
    · simp only [timeInquiries, accepted]
    · simp [sent_afterAsking record]
    · rw [sentAt] at computed
      exact computed

theorem sequence_queryTime (client : Client) (request : Request) :
    (client.queryTime request).2.channel.session.sequence = client.channel.session.sequence := by
  have spans := client.spans_queryTime request
  have none : (client.timeInquiries request).countP Inquiry.fetches = 0 := by
    rw [timeInquiries]
    split
    · rfl
    · rfl
  rw [spans.sequence, if_pos none]

/-- The fetches of a run on a fresh session are numbered from 2 on. All datagrams of a fetch are
one request with its number, each datagram of a time query is the request of its own second, and
nothing else is sent or numbered. -/
theorem transcript_performAll (client : Client) (calls : List Call)
    (fresh : client.channel.session.sequence = 1) :
    let inquiries := client.inquiriesAll calls
    let after := (client.performAll calls).2
    (∀ (n : Nat) inquiry, (inquiries.filter Inquiry.fetches)[n]? = some inquiry →
        inquiry.Fetches ((1 + (n + 1)) % 65536)) ∧
      (∀ inquiry ∈ inquiries, inquiry.subject = .time → ∀ one ∈ inquiry.sent,
        ∃ packet, inquiry.Times client.network.wallOffset one packet) ∧
      after.network.sentRev =
        (inquiries.flatMap Inquiry.sent).reverse ++ client.network.sentRev ∧
      after.channel.session.sequence = (1 + inquiries.countP Inquiry.fetches) % 65536 ∧
      ∀ earlier,
        let before := (client.performAll earlier).2
        (∀ call failure, before.accept call.request = .error failure →
          (before.perform call).2 = before) ∧
        ∀ request,
          (before.queryTime request).2.channel.session.sequence =
            before.channel.session.sequence ∧
          ∀ result, (before.queryTime request).1 = .ok result →
            ∃ budget destination answer inquiry last,
              before.accept request = .ok (budget, destination) ∧
              ((timeExchange budget destination).run before.channel).outcome = .ok answer ∧
              before.timeInquiries request = [inquiry] ∧ inquiry.sent.getLast? = some last ∧
              TimeResult.ofAnswer answer.packet
                (Network.wholeSeconds (last.time + client.network.wallOffset) + epochOffset)
                (answer.receivedAt + epochOffset) = .ok result := by
  intro inquiries after
  have spans := client.spans_performAll calls
  refine ⟨?_, spans.times, spans.sent, ?_, ?_⟩
  · intro n inquiry mem
    have asked := spans.fetches n inquiry mem
    rwa [fresh] at asked
  · rw [spans.sequence, fresh]
    split
    · rename_i none
      simp only [inquiries, none]
      rfl
    · rfl
  · intro earlier before
    refine ⟨fun call failure refusal => by rw [perform_of_refused refusal], fun request =>
      ⟨before.sequence_queryTime request, fun result told => ?_⟩⟩
    have offset := (client.spans_performAll earlier).wallOffset
    rw [← offset]
    exact departure_queryTime told

/-- The first query is refused, the second one's follow-up gets no answer, and the third one is
answered at its second request. -/
theorem transcript_performAll_followed :
    let server : Endpoint := ⟨"10.0.0.1", 123⟩
    let reply : Datagram :=
      ⟨[30, 130, 0, 2, 0, 0, 0, 0, 0, 0, 0, 6] ++ ControlPacket.asciiBytes "peer=7", server⟩
    let clock : Datagram := ⟨28 :: List.replicate 47 0, server⟩
    let client := Client.onNetwork { script := [[⟨5, reply⟩], [], [], [], [⟨8, clock⟩]] } none
    let request : Request := { host := "10.0.0.1", retries := some 1, timeoutMs := some 4000 }
    let unrefused := [.status { request with port := 0 }, .status request]
    let inquiries := client.inquiriesAll (unrefused ++ [.time request])
    client.channel.session.sequence = 1 ∧
      inquiries.map Inquiry.subject = [.server, .peer 7, .time] ∧
      inquiries.map (·.sent.map SentDatagram.time) = [[0], [5, 2005], [4005, 6005]] ∧
      (∃ followUp, (inquiries.filter Inquiry.fetches)[1]? = some followUp ∧ followUp.Fetches 3) ∧
      (∃ asking ∈ inquiries, asking.subject = .time ∧ ∀ one ∈ asking.sent,
        ∃ packet, asking.Times client.network.wallOffset one packet) ∧
      ∃ result, ∃ answer : Answer ClientPacket, ∃ inquiry last,
        ((client.performAll unrefused).2.queryTime request).1 = .ok result ∧
        (client.performAll unrefused).2.timeInquiries request = [inquiry] ∧
        inquiry.sent.getLast? = some last ∧
        TimeResult.ofAnswer answer.packet
          (Network.wholeSeconds (last.time + client.network.wallOffset) + epochOffset)
          (answer.receivedAt + epochOffset) = .ok result := by
  intro server reply clock client request unrefused inquiries
  obtain ⟨fetches, times, -, -, queries⟩ :=
    transcript_performAll client (unrefused ++ [.time request]) rfl
  have subjects : inquiries.map Inquiry.subject = [.server, .peer 7, .time] := by decide +kernel
  refine ⟨rfl, subjects, by decide +kernel, ?_, ?_, ?_⟩
  · have found : ((inquiries.filter Inquiry.fetches)[1]?).isSome := by decide +kernel
    obtain ⟨followUp, found⟩ := Option.isSome_iff_exists.mp found
    exact ⟨followUp, found, fetches 1 followUp found⟩
  · have among : Subject.time ∈ inquiries.map Inquiry.subject := by
      rw [subjects]
      decide
    obtain ⟨asking, mem, timed⟩ := List.mem_map.mp among
    exact ⟨asking, mem, timed, times asking mem timed⟩
  · have told : ((client.performAll unrefused).2.queryTime request).1.isOk := by decide +kernel
    cases result : ((client.performAll unrefused).2.queryTime request).1 with
    | error failure => simp [result, Except.isOk, Except.toBool] at told
    | ok given =>
      obtain ⟨-, -, answer, inquiry, last, -, -, only, newest, computed⟩ :=
        ((queries unrefused).2 request).2 given result
      exact ⟨given, answer, inquiry, last, rfl, only, newest, computed⟩

end Client

end NtpQuery
