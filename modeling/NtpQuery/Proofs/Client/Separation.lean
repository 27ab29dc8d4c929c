import Mathlib.Control.Monad.Basic
import NtpQuery.Proofs.Client.Query
import NtpQuery.Proofs.Exchange.Honesty
import NtpQuery.Proofs.VariableList

/-!
# Queries keep their responses apart

All fetches of a session use one socket, and a response may come long after
the fetch that it belongs to was given up. What keeps them apart is the
sequence number. A session gives out each of its numbers once before it starts
over, so among fewer than 65536 fetches no two have the same, and a response
repeats the number of its request.

`Issued` says of everything a client does which numbers its requests carry. So
a response that a fetch accepts answers one of that fetch's own requests, and
the text of a status query is what the server said to that query.
-/

namespace NtpQuery

/-- The text of a response that was received between two points of time, to a request that was
sent between them. -/
inductive Replied (before after : Network) (destination : Endpoint) (association : Int)
    (text : String) : Prop
  | intro {requests : List SentDatagram} {got : List Datagram} {sent : SentDatagram}
      {request : ControlPacket} {datagram : Datagram}
      (sentRev : after.sentRev = requests ++ before.sentRev)
      (receivedRev : after.receivedRev = got ++ before.receivedRev)
      (own : sent ∈ requests) (target : sent.destination = destination) (asks : sent.Asks request)
      (about : request.association = association)
      (received : datagram ∈ got) (source : datagram.source = destination)
      (copy : ControlPacket.response request text 0 = .ok datagram.data) :
      Replied before after destination association text

/-- What was said until some point of time was also said until any later one. -/
theorem Replied.mono {before middle after : Network} {destination : Endpoint} {association : Int}
    {text : String} (replied : Replied before middle destination association text)
    (sent : middle.sentRev <:+ after.sentRev)
    (received : middle.receivedRev <:+ after.receivedRev) :
    Replied before after destination association text := by
  obtain ⟨sentRev, receivedRev, own, target, asks, about, taken, source, copy⟩ := replied
  obtain ⟨requests, hs⟩ := sent
  obtain ⟨got, hr⟩ := received
  rw [sentRev, ← List.append_assoc] at hs
  rw [receivedRev, ← List.append_assoc] at hr
  exact ⟨hs.symm, hr.symm, List.mem_append_right _ own, target, asks, about,
    List.mem_append_right _ taken, source, copy⟩

namespace Client

/-- What a client does to its session: it counts on with the numbers, and each control request
that it sends carries one of the numbers that it gave out. -/
structure Issued (client after : Client) : Prop where
  count : client.channel.session.issued ≤ after.channel.session.issued
  sequence : after.channel.session.sequence % 65536 =
    (client.channel.session.sequence +
      (after.channel.session.issued - client.channel.session.issued)) % 65536
  sent : ∃ requests, after.network.sentRev = requests ++ client.network.sentRev ∧
    ∀ sent ∈ requests, ∀ request, sent.Asks request →
      ∃ number : Nat, client.channel.session.issued < number ∧
        number ≤ after.channel.session.issued ∧
        request.sequence = (client.channel.session.sequence +
          (number - client.channel.session.issued)) % 65536
  received : client.network.receivedRev <:+ after.network.receivedRev
  honest : ∀ all, after.network.sentRev <:+ all →
    client.channel.Honest all → after.channel.Honest all

namespace Issued

variable {client after : Client}

theorem of_channel (same : after.channel = client.channel) : client.Issued after := by
  refine ⟨?_, ?_, ⟨[], ?_, by simp⟩, ⟨[], ?_⟩, ?_⟩
  · exact Nat.le_of_eq (by rw [same])
  · rw [same]
    simp
  · rw [network, same]
    rfl
  · rw [network, network, same, List.nil_append]
  · intro all _ honest
    rwa [same]

theorem suffix (h : client.Issued after) : client.network.sentRev <:+ after.network.sentRev := by
  obtain ⟨requests, sent, -⟩ := h.sent
  exact ⟨requests, sent.symm⟩

theorem trans {first second third : Client} (h : first.Issued second) (h' : second.Issued third) :
    first.Issued third := by
  obtain ⟨earlier, sent, own⟩ := h.sent
  obtain ⟨later, sent', own'⟩ := h'.sent
  have count := h.count
  have count' := h'.count
  have sequence := h.sequence
  have sequence' := h'.sequence
  refine ⟨Nat.le_trans count count', by omega, ⟨later ++ earlier, ?_, ?_⟩,
    h.received.trans h'.received, ?_⟩
  · rw [sent', sent, List.append_assoc]
  · intro one mem request asks
    rcases List.mem_append.mp mem with mem | mem
    · obtain ⟨number, lower, upper, given⟩ := own' one mem request asks
      exact ⟨number, by omega, upper, by omega⟩
    · obtain ⟨number, lower, upper, given⟩ := own one mem request asks
      exact ⟨number, lower, by omega, given⟩
  · intro all known honest
    exact h'.honest all known (h.honest all (h'.suffix.trans known) honest)

end Issued

theorem channel_after {α : Type} (client : Client) (run : Run α) :
    (client.after run).channel = run.channel := rfl

/-- A request for the time is no control request. -/
theorem not_asks_time {sent : SentDatagram} {now : Int} (h : sent.data = ClientPacket.request now)
    (request : ControlPacket) : ¬ sent.Asks request := by
  rintro ⟨decoded, mode⟩
  rw [h, ControlPacket.decode] at decoded
  split at decoded
  · simp at decoded
  · obtain rfl := Except.ok.inj decoded
    have first : Wire.unsignedAt 0 1 (ClientPacket.request now) = 27 := rfl
    simp [ControlPacket.mode, Wire.modeOf, first] at mode

theorem issued_ask (client : Client) (budget : Budget) (destination : Endpoint) :
    client.Issued (client.after ((timeExchange budget destination).run client.channel)) := by
  obtain ⟨⟨requests, sent, own⟩, received, sequence, issued, honest⟩ :=
    (Exchange.Traffic.carried (timeExchange budget destination)).run client.channel
  refine ⟨?_, ?_, ⟨requests, sent, ?_⟩, received, honest⟩
  · exact Nat.le_of_eq issued.symm
  · rw [channel_after, sequence, issued]
    omega
  · intro one mem request asks
    obtain ⟨-, attempt, now, data⟩ := own one mem
    exact absurd asks (not_asks_time data request)

/-- What a fetch does: it takes a number, and all that it sends is one request with it. -/
theorem fetchVariables_spec (client : Client) (budget : Budget) (destination : Endpoint)
    (association : Int) :
    ∃ payload request,
      ControlPacket.decode payload = .ok request ∧
      request.sequence = client.numbered.channel.session.sequence ∧
      request.association = association % 65536 ∧
      client.fetchVariables budget destination association =
        (((variablesExchange budget destination association
            client.numbered.channel.session.sequence payload).run client.numbered.channel).outcome,
          client.numbered.after ((variablesExchange budget destination association
            client.numbered.channel.session.sequence payload).run client.numbered.channel)) := by
  obtain ⟨payload, written, run⟩ := client.fetchVariables_eq budget destination association
  obtain ⟨same, written', request, decoded, sequence, about⟩ :=
    ControlPacket.request_ok association client.numbered.channel.session.sequence
  obtain rfl := Except.ok.inj (written.symm.trans written')
  obtain ⟨lower, upper⟩ := client.sequence_numbered
  exact ⟨payload, request, decoded, sequence.trans (Int.emod_eq_of_lt lower upper), about, run⟩

theorem issued_fetch (client : Client) (budget : Budget) (destination : Endpoint)
    (association : Int) :
    client.Issued (client.fetchVariables budget destination association).2 := by
  obtain ⟨payload, request, decoded, number, -, run⟩ :=
    client.fetchVariables_spec budget destination association
  rw [run]
  obtain ⟨⟨requests, sent, own⟩, received, sequence, issued, honest⟩ :=
    (Exchange.Traffic.carried (variablesExchange budget destination association
      client.numbered.channel.session.sequence payload)).run client.numbered.channel
  have counted : client.numbered.channel.session.issued = client.channel.session.issued + 1 := rfl
  have given : client.numbered.channel.session.sequence =
      (client.channel.session.sequence + 1) % 65536 := rfl
  refine ⟨?_, ?_, ⟨requests, sent, ?_⟩, received, ?_⟩
  · apply Nat.le_trans _ (Nat.le_of_eq issued.symm)
    omega
  · rw [channel_after, sequence, issued]
    omega
  · intro one mem asked asks
    obtain ⟨-, attempt, now, data⟩ := own one mem
    have payload_eq : one.data = payload := data
    have same : asked = request := by
      have := asks.1
      rw [payload_eq, decoded] at this
      exact (Except.ok.inj this).symm
    refine ⟨client.channel.session.issued + 1, by omega, Nat.le_of_eq issued.symm, ?_⟩
    rw [same, number, given]
    congr 1
    omega
  · intro all known trusted
    apply honest all known
    exact trusted.of_same (fun _ mem => mem) rfl rfl rfl

theorem issued_carried : Carried Issued where
  refl _ := .of_channel rfl
  trans := Issued.trans
  observe _ _ := .of_channel rfl
  fetch := issued_fetch
  ask := issued_ask

/-- Among all requests of a client, those with the number that was given out last between two
points of time were sent between them. -/
theorem Issued.between {first before next final : Client} (earlier : first.Issued before)
    (taken : before.Issued next) (later : next.Issued final)
    (fresh : first.network.sentRev = [])
    (one : next.channel.session.issued = before.channel.session.issued + 1)
    (few : final.channel.session.issued < first.channel.session.issued + 65536)
    {requests : List SentDatagram}
    (sentRev : next.network.sentRev = requests ++ before.network.sentRev) {sent : SentDatagram}
    {request : ControlPacket} (mem : sent ∈ final.network.sentRev) (asks : sent.Asks request)
    (number : request.sequence = next.channel.session.sequence % 65536) : sent ∈ requests := by
  obtain ⟨early, sent₁, own₁⟩ := earlier.sent
  obtain ⟨late, sent₃, own₃⟩ := later.sent
  have count₁ := earlier.count
  have count₃ := later.count
  have sequence₁ := earlier.sequence
  have sequence₂ := taken.sequence
  rw [sent₃, sentRev, sent₁, fresh, List.append_nil] at mem
  rcases List.mem_append.mp mem with mem | mem
  · obtain ⟨given, lower, upper, same⟩ := own₃ sent mem request asks
    omega
  rcases List.mem_append.mp mem with mem | mem
  · exact mem
  · obtain ⟨given, lower, upper, same⟩ := own₁ sent mem request asks
    omega

/-- A fetch in a run of fewer than 65536 takes the response to one of its own requests. -/
theorem replied_of_fetch {first before next final : Client} {budget : Budget}
    {destination : Endpoint} {association : Int} {answer : Answer ControlPacket}
    (earlier : first.Issued before)
    (fetched : before.fetchVariables budget destination association = (.ok answer, next))
    (later : next.Issued final) (fresh : first.network.sentRev = [])
    (few : final.channel.session.issued < first.channel.session.issued + 65536)
    (honest : first.channel.Honest final.network.sentRev)
    (word : 0 ≤ association ∧ association < 65536) :
    Replied before.network next.network destination association answer.packet.text := by
  have taken := issued_carried.fetched fetched
  obtain ⟨payload, request, decoded, number, about, run⟩ :=
    before.fetchVariables_spec budget destination association
  rw [run, Prod.mk.injEq] at fetched
  obtain ⟨outcome, rfl⟩ := fetched
  obtain ⟨⟨requests, sentRev, own⟩, -, sequence, issued, -⟩ :=
    (Exchange.Traffic.carried (variablesExchange budget destination association
      before.numbered.channel.session.sequence payload)).run before.numbered.channel
  have trusted : before.numbered.channel.Honest final.network.sentRev := by
    have before_honest := earlier.honest _ (taken.suffix.trans later.suffix) honest
    exact before_honest.of_same (fun _ mem => mem) rfl rfl rfl
  obtain ⟨datagram, got, truthful, accepts, asked, receivedRev⟩ :=
    Exchange.Traffic.truthful_of_answer outcome trusted later.suffix
  obtain ⟨read, response, source, same⟩ := variablesExchange_accept.mp accepts
  -- The datagram comes from a server that was asked, so it answers one of the requests.
  have genuine : datagram.Genuine final.network.sentRev := by
    apply truthful
    have source' : datagram.source = destination := source
    rw [source']
    exact asked
  obtain ⟨one, mem, request', asks, sequence', copy⟩ := genuine.answers read response
  -- It repeats the number of this fetch, which no other request has.
  have mine : one ∈ requests := by
    have given : before.numbered.channel.session.sequence =
        (before.channel.session.sequence + 1) % 65536 := rfl
    apply earlier.between taken later fresh issued few sentRev mem asks
    rw [channel_after, sequence, sequence', same]
    omega
  obtain ⟨target, _, _, data⟩ := own one mine
  obtain rfl : request' = request := by
    have := asks.1
    rw [data] at this
    exact Except.ok.inj (this.symm.trans decoded)
  exact ⟨sentRev, receivedRev, mine, target, asks, by omega, List.mem_cons_self, source, copy⟩

/-- The variables that a status query shows are those that the server told it, and where the
server named a peer, those that it told about this peer. -/
inductive Told (before after : Client) (destination : Endpoint) : Mapping String String → Prop
  | alone {text : String}
      (system : Replied before.network after.network destination 0 text) :
      Told before after destination (statusVariables text "")
  | both {text peerText : String} {association : Nat} {middle : Network}
      (system : Replied before.network middle destination 0 text)
      (named : VariableList.peerAssociation? text = some (some association))
      (peer : Replied middle after.network destination association peerText) :
      Told before after destination (statusVariables text peerText)

/-- A status query in a run of fewer than 65536 fetches. -/
theorem told_of_queryStatus {first before after final : Client} {request : Request}
    {known : Mapping String String} (earlier : first.Issued before)
    (answered : before.queryStatus request = (.ok known, after)) (later : after.Issued final)
    (fresh : first.network.sentRev = [])
    (few : final.channel.session.issued < first.channel.session.issued + 65536)
    (honest : first.channel.Honest final.network.sentRev) :
    ∃ budget destination, before.accept request = .ok (budget, destination) ∧
      before.Told after destination known := by
  have course := statusCourse_queryStatus before request
  rw [answered] at course
  cases course with
  | @answered budget destination answer peerText next last accepted fetched followed =>
    have started := earlier.trans (issued_carried.observe before
      (.query QueryKind.status.name destination budget.retries budget.timeoutMs))
    have asked := issued_carried.fetched fetched
    have followUp := issued_carried.followed followed
    have ended := (issued_carried.observe last _).trans later
    have system := replied_of_fetch started fetched (followUp.trans ended) fresh few honest
      ⟨Int.le_refl _, by decide⟩
    refine ⟨budget, destination, accepted, ?_⟩
    have course := followUp_fetchPeer next budget destination answer.packet.text
    rw [followed] at course
    cases course with
    | needless => exact .alone system
    | unanswered peer fetched' => exact .alone (system.mono followUp.suffix followUp.received)
    | @answered association _ _ named fetched' =>
      have small := (VariableList.peerAssociation?_range named).2
      have peer := replied_of_fetch (started.trans asked) fetched' ended fresh few honest
        (by omega)
      exact .both system named peer

/-- In a run of fewer than 65536 fetches every status query that succeeds shows what the server
said to its own requests, also when other responses arrive late, twice or not at all. -/
theorem queryStatus_told (client : Client) (earlier later : List Call) (request : Request)
    {known : Mapping String String} (fresh : client.network.sentRev = [])
    (few : (client.performAll (earlier ++ .status request :: later)).2.channel.session.issued <
      client.channel.session.issued + 65536)
    (honest : client.channel.Honest
      (client.performAll (earlier ++ .status request :: later)).2.network.sentRev)
    (answered : ((client.performAll earlier).2.queryStatus request).1 = .ok known) :
    ∃ budget destination,
      (client.performAll earlier).2.accept request = .ok (budget, destination) ∧
      (client.performAll earlier).2.Told ((client.performAll earlier).2.queryStatus request).2
        destination known := by
  rw [performAll_append] at few honest
  apply told_of_queryStatus (issued_carried.performAll client earlier) (Prod.ext answered rfl) _
    fresh few honest
  exact issued_carried.performAll _ later

/-- The response to a query that was given up arrives during the next one, and the response to
its first fetch arrives once more during its second one. -/
theorem queryStatus_told_late :
    let server : Endpoint := ⟨"10.0.0.1", 123⟩
    let reply (number association : UInt8) (text : String) : Datagram :=
      ⟨[30, 130, 0, number, 0, 0, 0, association, 0, 0, 0, UInt8.ofNat text.length] ++
        ControlPacket.asciiBytes text, server⟩
    let late := reply 2 0 "a=1"
    let own := reply 3 0 "b=2,peer=7"
    let peer := reply 4 7 "c=3"
    let client := Client.onNetwork
      { script := [[⟨8, late⟩], [⟨6, own⟩], [⟨0, own⟩, ⟨1, peer⟩]] } none
    let request : Request := { host := "10.0.0.1", retries := some 0, timeoutMs := some 7 }
    let before := (client.performAll [.status request]).2
    let after := (before.queryStatus request).2
    after.network.receivedRev = [peer, own, own, late] ∧
      ∃ budget destination, before.accept request = .ok (budget, destination) ∧
        before.Told after destination [("sys.b", "2"), ("sys.peer", "7"), ("peer.c", "3")] := by
  intro server reply late own peer client request before after
  let final := (client.performAll ([.status request] ++ .status request :: [])).2
  let question (number association : Int) : ControlPacket :=
    { sequence := number
      association
      count := (ControlPacket.variablesFor association).length
      data := Bytes.padTo 500 (ControlPacket.asciiBytes (ControlPacket.variablesFor association)) }
  let asking (time number association : Int) : SentDatagram :=
    ⟨time, (question number association).headerOctets ++ (question number association).data, server⟩
  have sent : final.network.sentRev = [asking 13 4 7, asking 7 3 0, asking 0 2 0] := by
    decide +kernel
  have answers : ∀ datagram ∈ [late, own, peer], datagram.Truthful final.network.sentRev := by
    intro datagram mem _
    rw [sent]
    simp only [List.mem_cons, List.not_mem_nil, or_false] at mem
    rcases mem with rfl | rfl | rfl
    · exact @Datagram.Genuine.reply _ _ (asking 0 2 0) (question 2 0) "a=1" (by simp)
        ⟨by decide +kernel, by decide⟩ ⟨by decide, by decide, by decide⟩ (by decide +kernel)
    · exact @Datagram.Genuine.reply _ _ (asking 7 3 0) (question 3 0) "b=2,peer=7" (by simp)
        ⟨by decide +kernel, by decide⟩ ⟨by decide, by decide, by decide⟩ (by decide +kernel)
    · exact @Datagram.Genuine.reply _ _ (asking 13 4 7) (question 4 7) "c=3" (by simp)
        ⟨by decide +kernel, by decide⟩ ⟨by decide, by decide, by decide⟩ (by decide +kernel)
  have honest : client.channel.Honest final.network.sentRev := by
    refine ⟨by simp [client, Client.onNetwork, Session.inbox], ?_, ?_⟩
    · intro deliveries chosen delivery mem
      apply answers
      have scripted : deliveries ∈ client.network.script := List.mem_of_mem_take chosen
      simp only [client, Client.onNetwork, Client.network, List.mem_cons, List.not_mem_nil,
        or_false] at scripted
      rcases scripted with rfl | rfl | rfl
      all_goals
        simp only [List.mem_cons, List.not_mem_nil, or_false] at mem
      · simp [mem]
      · simp [mem]
      · rcases mem with rfl | rfl
        · simp
        · simp
    · intro station here
      simp [client, Client.onNetwork] at here
  refine ⟨by decide +kernel, ?_⟩
  exact queryStatus_told client [.status request] [] request rfl (by decide +kernel) honest
    (by decide +kernel)

end Client

end NtpQuery
