import NtpQuery.Proofs.Client.Query
import NtpQuery.Proofs.Exchange.Serving
import NtpQuery.Proofs.Responder
import NtpQuery.Proofs.VariableList

/-!
# A status query from end to end

A client asks a responder on a network on which nothing else is going on. What
it gets can be read off the configuration of the responder: the variables of
its system text and, when that names a peer which the responder answers for,
those of the peer text, each as far as one response carries it. The statistics
of the client then show the requests that were ignored, the one that was
answered, the follow-up if there was one, and what the responder put in front
of its responses.

Both exchanges are exchanges alone with a responder. The first one uses up the
requests that are ignored, so the follow-up is answered at once or not at all.
-/

namespace NtpQuery

namespace ResponderConfig

/-- What the responder puts in front of a response, as the client that awaits it sees it. -/
def decoys (config : ResponderConfig) : List Mismatch :=
  (if config.shortFirst then [.short] else []) ++
    (if config.staleFirst then [.wrongSequence] else [])

/-- The texts of the responder can be sent. -/
structure Legible (config : ResponderConfig) : Prop where
  system : ControlPacket.Legible config.systemText
  peers : ∀ (association : Int) text, config.peerTexts.get? association = some text →
    ControlPacket.Legible text

/-- What becomes of the follow-up of a status query. -/
inductive Prospect where
  | needless
  | unanswered
  | answered (text : String)
  deriving DecidableEq, Repr

namespace Prospect

/-- How many requests the follow-up takes, given how often it is asked again. -/
def requests (retries : Nat) : Prospect → Nat
  | needless => 0
  | unanswered => retries + 1
  | answered _ => 1

def responses : Prospect → Nat
  | answered _ => 1
  | _ => 0

def failures : Prospect → Nat
  | unanswered => 1
  | _ => 0

/-- The text that the follow-up brings; empty when it brings none. -/
def text : Prospect → String
  | answered text => text
  | _ => ""

end Prospect

/-- The follow-up asks for the peer that the system text names, as far as it is sent. -/
def prospect (config : ResponderConfig) : Prospect :=
  match VariableList.peerAssociation? (ControlPacket.carried config.systemText) with
  | some (some association) =>
    match if config.answerPeer then config.peerTexts.get? (association : Int) else none with
    | some text => .answered (ControlPacket.carried text)
    | none => .unanswered
  | _ => .needless

/-- The variables that a status query finds. -/
def report (config : ResponderConfig) : Mapping String String :=
  let known := VariableList.read (ControlPacket.carried config.systemText) "sys" []
  match config.prospect with
  | .answered text => VariableList.read text "peer" known
  | _ => known

/-- The statistics of a status query, the first one of its client and of the responder. -/
def statistics (config : ResponderConfig) (retries : Nat) (roundTrip : Int) : KindStats :=
  let answered := 1 + config.prospect.responses
  { queries := 1
    succeeded := 1
    peerFailures := config.prospect.failures
    sent := config.dropFirst.toNat + 1 + config.prospect.requests retries
    received := answered * (config.decoys.length + 1)
    discarded := config.decoys.map fun mismatch => (mismatch.name, answered)
    roundTripsRev := [roundTrip] }

/-- What an exchange counts that ends with a response. -/
def counts (config : ResponderConfig) (requests : Nat) : Counts :=
  ⟨requests, config.decoys.length + 1, config.decoys.map (·.name)⟩

/-- The statistics after the follow-up. -/
def followUp (config : ResponderConfig) (retries : Nat) (stats : KindStats) : KindStats :=
  match config.prospect with
  | .needless => stats
  | .unanswered =>
    { stats.add ⟨retries + 1, 0, []⟩ with peerFailures := stats.peerFailures + 1 }
  | .answered _ => stats.add (config.counts 1)

/-- How the follow-up comes to its end: by what the system text names and by what the responder
knows of it. -/
inductive Leads (config : ResponderConfig) : Prospect → Prop
  | needless
      (named : VariableList.peerAssociation? (ControlPacket.carried config.systemText) =
        some none) :
      Leads config .needless
  | unanswered {association : Nat}
      (named : VariableList.peerAssociation? (ControlPacket.carried config.systemText) =
        some (some association))
      (unknown : Responder.variablesText? config association = none) :
      Leads config .unanswered
  | answered {association : Nat} {text : String}
      (named : VariableList.peerAssociation? (ControlPacket.carried config.systemText) =
        some (some association))
      (known : Responder.variablesText? config association = some text)
      (legible : ControlPacket.Legible text) :
      Leads config (.answered (ControlPacket.carried text))

theorem leads_prospect (config : ResponderConfig) (legible : config.Legible) :
    config.Leads config.prospect := by
  have short : (ControlPacket.carried config.systemText).toList.length ≤
      Text.Numeral.maxDigits :=
    Nat.le_trans (ControlPacket.length_carried _) (by decide)
  obtain ⟨named, found⟩ := Option.isSome_iff_exists.mp (VariableList.peerAssociation?_isSome short)
  rw [prospect, found]
  cases named with
  | none => exact .needless found
  | some association =>
    have positive := (VariableList.peerAssociation?_range found).1
    have other : ¬ (association : Int) = 0 := by omega
    have texts : Responder.variablesText? config association =
        if config.answerPeer then config.peerTexts.get? (association : Int) else none := by
      rw [Responder.variablesText?, if_neg other]
    simp only [← texts]
    cases known : Responder.variablesText? config association with
    | none => exact .unanswered found known
    | some text =>
      have listed := texts.symm.trans known
      split at listed
      · exact .answered found known (legible.peers _ _ listed)
      · simp at listed

theorem statusVariables_prospect (config : ResponderConfig) (legible : config.Legible) :
    Client.statusVariables (ControlPacket.carried config.systemText) config.prospect.text =
      config.report := by
  have leads := config.leads_prospect legible
  rw [report, Client.statusVariables]
  generalize config.prospect = prospect at leads
  cases leads with
  | needless => rfl
  | unanswered => rfl
  | answered named known plain =>
    simp [Prospect.text, ControlPacket.isEmpty_carried plain.nonempty]

/-- Each response adds one to the number of each of its decoys. -/
theorem countAll_decoys (config : ResponderConfig) :
    Mapping.countAll (config.decoys.map (·.name)) [] =
        config.decoys.map (fun mismatch => (mismatch.name, 1)) ∧
      Mapping.countAll (config.decoys.map (·.name))
          (config.decoys.map fun mismatch => (mismatch.name, 1)) =
        config.decoys.map fun mismatch => (mismatch.name, 2) := by
  rw [decoys]
  cases config.shortFirst with
  | false => cases config.staleFirst <;> decide
  | true => cases config.staleFirst <;> decide

theorem statistics_eq (config : ResponderConfig) (retries : Nat) {roundTrip : Int}
    (nonneg : 0 ≤ roundTrip) {members : List (String × Json)} :
    (config.followUp retries (({ queries := 1 } : KindStats).add
      (config.counts (config.dropFirst.toNat + 1)))).observe (some 100)
        (.answered QueryKind.status.name roundTrip members) =
      config.statistics retries roundTrip := by
  obtain ⟨once, twice⟩ := config.countAll_decoys
  rw [followUp, statistics]
  cases config.prospect with
  | needless =>
    simp [counts, KindStats.add, KindStats.observe, keepNewest, nonneg, once,
      Prospect.requests, Prospect.responses, Prospect.failures]
  | unanswered =>
    simp [counts, KindStats.add, KindStats.observe, keepNewest, nonneg, once,
      Prospect.requests, Prospect.responses, Prospect.failures]
  | answered text =>
    simp [counts, KindStats.add, KindStats.observe, keepNewest, nonneg, once, twice,
      Prospect.requests, Prospect.responses, Prospect.failures]
    omega

end ResponderConfig

/-- A responder that answers within the time of an attempt. -/
structure Station.Prompt (station : Station) (budget : Budget) : Prop where
  alive : station.alive = true
  up : 0 ≤ station.upMs
  down : 0 ≤ station.downMs
  soon : station.upMs + station.downMs < budget.attemptMs

namespace Client

open Responder ControlPacket

variable {station : Station} {budget : Budget} {association sequence : Int} {payload : Bytes}

/-- A request for variables reaches the responder as it was made, whenever it comes. -/
theorem serves_of_replies (prompt : station.Prompt budget) {replies : List Bytes}
    (short : payload.length ≤ Wire.controlPacketSize)
    (made : ∀ now, Responder.replies station.config now payload = .ok replies)
    (whole : ∀ reply ∈ replies, reply.length ≤ Wire.controlPacketSize) :
    (variablesExchange budget station.endpoint association sequence payload).Serves station
      fun _ _ => replies := by
  refine ⟨prompt.alive, rfl, prompt.up, prompt.down, ?_, ?_⟩
  · intro attempt now later
    have cut : payload.take Wire.controlPacketSize = payload := List.take_of_length_le short
    simp only [variablesExchange, cut, made]
  · intro _ _ reply mem
    exact Datagram.cut_of_short (whole reply mem)

/-- The request of a fetch as the responder reads it. -/
theorem asked_of_request (written : ControlPacket.request 2 association sequence = .ok payload)
    (numbered : 0 ≤ sequence ∧ sequence < 65536)
    (associated : 0 ≤ association ∧ association < 65536) :
    payload.length ≤ Wire.controlPacketSize ∧
      ∃ asked : ControlPacket, asked.Fits ∧ asked.sequence = sequence ∧
        asked.association = association ∧
        ∀ config now, Responder.replies config now payload = controlReplies config asked := by
  obtain ⟨same, written', length, read⟩ := ControlPacket.request_spec association sequence
  obtain rfl := Except.ok.inj (written.symm.trans written')
  exact ⟨Nat.le_of_eq length, _, (ControlPacket.fits_of_decode read).1,
    Int.emod_eq_of_lt numbered.1 numbered.2, Int.emod_eq_of_lt associated.1 associated.2,
    fun config now => replies_control read rfl⟩

theorem serves_unknown (prompt : station.Prompt budget)
    (written : ControlPacket.request 2 association sequence = .ok payload)
    (numbered : 0 ≤ sequence ∧ sequence < 65536)
    (associated : 0 ≤ association ∧ association < 65536)
    (unknown : variablesText? station.config association = none) :
    (variablesExchange budget station.endpoint association sequence payload).Serves station
      fun _ _ => [] := by
  obtain ⟨short, asked, -, -, rfl, replies⟩ := asked_of_request written numbered associated
  refine serves_of_replies prompt short ?_ (by simp)
  intro now
  rw [replies, controlReplies_of_none unknown]

/-- A response that was cut after its header is turned away. -/
theorem objection?_of_short (budget : Budget) (source : Endpoint) (association sequence : Int)
    (payload : Bytes) {data : Bytes} (short : data.length < Wire.controlMinSize) :
    (variablesExchange budget source association sequence payload).objection? ⟨data, source⟩ =
      some Mismatch.short.name := by
  have mismatch : Correlator.control source sequence ⟨data, source⟩ = .error .short :=
    Correlator.control_short short
  apply Exchange.objection?_eq_some.mpr
  simp only [variablesExchange, mismatch]
  rfl

/-- So is a response to a request with another number. -/
theorem objection?_of_other (budget : Budget) (source : Endpoint) (association : Int)
    {sequence : Int} (payload : Bytes) {request : ControlPacket} {data : Bytes} {text : String}
    (legible : Legible text) (written : ControlPacket.response request text 0 = .ok data)
    (other : request.sequence % 65536 ≠ sequence) :
    (variablesExchange budget source association sequence payload).objection? ⟨data, source⟩ =
      some Mismatch.wrongSequence.name := by
  obtain ⟨packet, read, response, number, -⟩ :=
    decode_response_eq legible.nonempty legible.terminated written
  have mismatch : Correlator.control source sequence ⟨data, source⟩ = .error .wrongSequence :=
    Correlator.control_wrongSequence read response rfl (number ▸ other)
  apply Exchange.objection?_eq_some.mpr
  simp only [variablesExchange, mismatch]
  rfl

/-- A request for variables that the responder tells is answered by a response with its text, after
what the responder puts in front. -/
theorem serves_known (prompt : station.Prompt budget)
    (written : ControlPacket.request 2 association sequence = .ok payload)
    (numbered : 0 ≤ sequence ∧ sequence < 65536)
    (associated : 0 ≤ association ∧ association < 65536) {text : String}
    (known : variablesText? station.config association = some text) (legible : Legible text) :
    ∃ front reply packet,
      ((variablesExchange budget station.endpoint association sequence payload).Serves station
        fun _ _ => front ++ [reply]) ∧
      front.map (fun data => (variablesExchange budget station.endpoint association sequence
        payload).objection? ⟨data, station.endpoint⟩) =
        (station.config.decoys.map (·.name)).map some ∧
      (variablesExchange budget station.endpoint association sequence payload).accept
        ⟨reply, station.endpoint⟩ = .ok packet ∧ packet.text = carried text := by
  obtain ⟨short, asked, fits, rfl, rfl, replies⟩ := asked_of_request written numbered associated
  obtain ⟨stale, reply, hs, hr, made⟩ := controlReplies_of_some fits known legible
  obtain ⟨packet, read, response, number, -, shown⟩ :=
    decode_response_eq legible.nonempty legible.terminated hr
  rw [Int.emod_eq_of_lt numbered.1 numbered.2] at number
  refine ⟨_, reply, packet, serves_of_replies prompt short (fun now => (replies _ _).trans made) ?_,
    ?_, variablesExchange_accept.mpr ⟨read, response, rfl, number⟩, shown⟩
  · have long := length_response hr
    have long' := length_response hs
    intro one mem
    simp only [List.mem_append, List.mem_ite_nil_right, List.mem_singleton] at mem
    rcases mem with (⟨-, rfl⟩ | ⟨-, rfl⟩) | rfl
    · exact Nat.le_trans (List.length_take_le' _ _) long
    · exact long'
    · exact long
  · have few : (reply.take Wire.controlHeaderSize).length < Wire.controlMinSize :=
      Nat.lt_of_le_of_lt (List.length_take_le _ _) (by decide)
    have cut := objection?_of_short budget station.endpoint asked.association asked.sequence
      payload few
    have apart : (earlierRequest asked).sequence % 65536 ≠ asked.sequence := by
      simp only [earlierRequest]
      omega
    have old := objection?_of_other budget station.endpoint asked.association payload
      (by decide +kernel) hs apart
    simp only [ResponderConfig.decoys, List.map_append, apply_ite (List.map _), List.map_cons,
      List.map_nil, cut, old]

/-- What a fetch alone with a responder leaves behind. -/
structure Fetched (client : Client) (station : Station) (seen : Nat) (counts : Counts)
    (next : Client) : Prop where
  alone : next.channel.Alone station (seen + counts.sent)
  window : next.record.metrics.window = client.record.metrics.window
  statistics : next.record.metrics.kind QueryKind.status.name =
    (client.record.metrics.kind QueryKind.status.name).add counts

variable {client : Client} {seen : Nat}

theorem fetched_of_passed {requests : Nat} {got : List Datagram} {destination : Endpoint}
    (passed : Exchange.Passed client.channel station seen
      ((variablesExchange budget destination association sequence payload).run
        client.channel).channel requests got) :
    client.Fetched station seen
      ⟨requests, got.length, got.filterMap
        (variablesExchange budget destination association sequence payload).objection?⟩
      (client.after ((variablesExchange budget destination association sequence payload).run
        client.channel)) := by
  obtain ⟨sent, sentRev, rfl⟩ := passed.sentRev
  obtain ⟨window, kinds⟩ := client.kind_after
    (variablesExchange budget destination association sequence payload) sentRev passed.receivedRev
  rw [List.length_reverse, List.reverse_reverse] at kinds
  have own : QueryKind.status.name =
    (variablesExchange budget destination association sequence payload).kindName := rfl
  refine ⟨passed.toAlone, window, ?_⟩
  rw [kinds, if_pos own]

/-- Variables that the responder tells are fetched as soon as it answers. -/
theorem fetchVariables_known (prompt : station.Prompt budget)
    (alone : client.channel.Alone station seen)
    (exact : budget.timeoutMs < Network.exactWaitMs)
    (few : station.ignores seen ≤ budget.retries) (association : Int)
    (associated : 0 ≤ association ∧ association < 65536) {text : String}
    (known : variablesText? station.config association = some text) (legible : Legible text) :
    ∃ answer next, client.fetchVariables budget station.endpoint association = (.ok answer, next) ∧
      answer.packet.text = carried text ∧
      answer.roundTrip = station.upMs + station.downMs ∧
      client.Fetched station seen (station.config.counts (station.ignores seen + 1)) next := by
  obtain ⟨payload, written, run⟩ :=
    client.fetchVariables_eq budget station.endpoint association
  obtain ⟨front, reply, packet, serves, objections, accepts, shown⟩ :=
    serves_known prompt written client.sequence_numbered associated known legible
  have numbered : client.numbered.channel.Alone station seen :=
    ⟨alone.quiet, alone.tended, alone.empty⟩
  obtain ⟨counted, objects, reasons⟩ := Exchange.objections_eq objections accepts
  obtain ⟨answer, outcome, ⟨rfl, -, -, roundTrip, -⟩, passed⟩ :=
    Exchange.Answers.answered ⟨serves, rfl, objects, accepts⟩ numbered prompt.soon exact few
  have fetched := fetched_of_passed passed
  rw [reasons, List.length_map, List.length_append, counted, List.length_map] at fetched
  rw [run, outcome]
  exact ⟨answer, _, rfl, shown, roundTrip, fetched.alone, fetched.window, fetched.statistics⟩

theorem fetchVariables_unknown (prompt : station.Prompt budget)
    (alone : client.channel.Alone station seen)
    (exact : budget.timeoutMs < Network.exactWaitMs) (association : Int)
    (associated : 0 ≤ association ∧ association < 65536)
    (unknown : variablesText? station.config association = none) :
    ∃ next, client.fetchVariables budget station.endpoint association =
        (.error (.reported .unanswered), next) ∧
      client.Fetched station seen ⟨budget.retries + 1, 0, []⟩ next := by
  obtain ⟨payload, written, run⟩ :=
    client.fetchVariables_eq budget station.endpoint association
  have serves := serves_unknown prompt written client.sequence_numbered associated unknown
  have numbered : client.numbered.channel.Alone station seen :=
    ⟨alone.quiet, alone.tended, alone.empty⟩
  have positive : (0 : Int) < budget.attemptMs := by
    have := prompt.up
    have := prompt.down
    have := prompt.soon
    omega
  obtain ⟨outcome, passed⟩ := serves.unanswered numbered positive exact
  have fetched := fetched_of_passed passed
  rw [run, outcome]
  exact ⟨_, rfl, fetched.alone, fetched.window, fetched.statistics⟩

/-- The follow-up of a status query at a responder that ignores no more requests. -/
theorem fetchPeer_alone (prompt : station.Prompt budget) (legible : station.config.Legible)
    (alone : client.channel.Alone station seen) (heeded : station.ignores seen = 0)
    (exact : budget.timeoutMs < Network.exactWaitMs) :
    ∃ next, client.fetchPeer budget station.endpoint (carried station.config.systemText) =
        (.ok station.config.prospect.text, next) ∧
      next.record.metrics.window = client.record.metrics.window ∧
      next.record.metrics.kind QueryKind.status.name =
        station.config.followUp budget.retries
          (client.record.metrics.kind QueryKind.status.name) := by
  have leads := station.config.leads_prospect legible
  rw [ResponderConfig.followUp]
  generalize station.config.prospect = prospect at leads
  cases leads with
  | needless named =>
    refine ⟨client, ?_, rfl, rfl⟩
    simp only [fetchPeer, named]
    rfl
  | @unanswered association named unknown =>
    obtain ⟨lower, upper⟩ := VariableList.peerAssociation?_range named
    obtain ⟨next, fetched, -, window, statistics⟩ :=
      fetchVariables_unknown prompt alone exact association (by omega) unknown
    refine ⟨next.observe (.peerFailed (.peer association .unanswered)), ?_, ?_, ?_⟩
    · simp only [fetchPeer, named, fetched]
      rfl
    · exact (Metrics.window_observe _ _).trans window
    · rw [kind_observe, statistics]
      · rfl
      · rfl
  | @answered association text named known plain =>
    obtain ⟨lower, upper⟩ := VariableList.peerAssociation?_range named
    obtain ⟨answer, next, fetched, shown, -, -, window, statistics⟩ :=
      fetchVariables_known prompt alone exact (by omega) association (by omega) known plain
    refine ⟨next, ?_, window, ?_⟩
    · simp only [fetchPeer, named, fetched, shown]
      rfl
    · rw [statistics, heeded]

/-- A client that has not been used. -/
structure Fresh (client : Client) : Prop where
  socket : client.channel.session.socket = none
  metrics : client.record.metrics = .fresh client.record.metrics.started

/-- A status query at a responder that answers in time finds what the responder was set up to tell,
and the statistics show every request and every reply. -/
theorem queryStatus_report {request : Request} (fresh : client.Fresh)
    (quiet : client.network.Quiet) (script : client.network.script = [])
    (here : client.network.station = some station) (unasked : station.stats.seen = 0)
    (prompt : station.Prompt budget) (legible : station.config.Legible)
    (accepted : client.accept request = .ok (budget, station.endpoint))
    (exact : budget.timeoutMs < Network.exactWaitMs)
    (few : station.config.dropFirst ≤ budget.retries) :
    (client.queryStatus request).1 = .ok station.config.report ∧
      (client.queryStatus request).2.record.metrics.kind QueryKind.status.name =
        station.config.statistics budget.retries (station.upMs + station.downMs) := by
  have alone : (client.start .status budget station.endpoint).channel.Alone station 0 :=
    ⟨quiet, ⟨script, station.stats, here, unasked⟩, Session.inbox_eq_nil fresh.socket⟩
  have ignores : station.ignores 0 = station.config.dropFirst.toNat := by
    simp [Station.ignores]
  have known : variablesText? station.config 0 = some station.config.systemText := rfl
  obtain ⟨answer, next, fetched, shown, roundTrip, alone', window, statistics⟩ :=
    fetchVariables_known prompt alone exact (by omega) 0 (by omega) known legible.system
  have heeded : station.ignores (0 + (station.ignores 0 + 1)) = 0 := by
    rw [Station.ignores_add]
    omega
  obtain ⟨last, followed, window', statistics'⟩ :=
    fetchPeer_alone prompt legible alone' heeded exact
  have sizes : last.record.metrics.window = some 100 := by
    rw [window', window]
    refine (Metrics.window_observe _ _).trans ?_
    rw [fresh.metrics]
    rfl
  have before : (client.start .status budget station.endpoint).record.metrics.kind
      QueryKind.status.name = { queries := 1 } := by
    rw [start, kind_observe, fresh.metrics, Metrics.kind_fresh]
    · rfl
    · rfl
  rw [← shown] at followed
  simp only [queryStatus, accepted, fetched, followed]
  refine ⟨?_, ?_⟩
  · rw [shown, station.config.statusVariables_prospect legible]
  · rw [kind_observe, statistics', statistics, before, sizes, roundTrip, ignores]
    · exact station.config.statistics_eq _ (Int.add_nonneg prompt.up prompt.down)
    · rfl

/-- A responder with all its faults. It ignores the first request, and the follow-up for the peer
that its text names is answered at once. -/
theorem queryStatus_report_faulty :
    let config : ResponderConfig :=
      { systemText := "version=4, peer=7, refid=LOCL\r\n", peerTexts := [(7, "reach=377\r\n")]
        dropFirst := 1, staleFirst := true, shortFirst := true }
    let station : Station :=
      { endpoint := ⟨"127.0.0.1", 12300⟩, config, upMs := 400, downMs := 500 }
    let client := Client.onNetwork { station := some station } none
    let request : Request :=
      { host := "127.0.0.1", port := 12300, retries := some 1, timeoutMs := some 2000 }
    (client.queryStatus request).1 = .ok config.report ∧
      (client.queryStatus request).2.record.metrics.kind QueryKind.status.name =
        config.statistics 1 (400 + 500) ∧
      config.report = [("sys.version", "4"), ("sys.peer", "7"), ("sys.refid", "LOCL"),
        ("peer.reach", "377")] ∧
      config.statistics 1 (400 + 500) =
        { queries := 1, succeeded := 1, sent := 3, received := 6
          discarded := [("short", 2), ("wrong-sequence", 2)], roundTripsRev := [900] } := by
  intro config station client request
  have accepted : client.accept request = .ok (⟨1, 2000, by decide⟩, station.endpoint) := by
    have found : client.network.lookup request.host = some ["127.0.0.1"] := by decide +kernel
    exact accept_of_lookup rfl found (by decide)
  have legible : config.Legible := by
    refine ⟨by decide +kernel, ?_⟩
    intro association text known
    rw [Mapping.get?_cons] at known
    split at known
    · obtain rfl := Option.some.inj known
      decide +kernel
    · simp at known
  obtain ⟨outcome, statistics⟩ := queryStatus_report ⟨rfl, rfl⟩
    ⟨fun kind => by cases kind <;> rfl, rfl, rfl⟩ rfl rfl rfl
    ⟨rfl, by decide, by decide, by decide⟩ legible accepted (by decide) (by decide)
  exact ⟨outcome, statistics, by decide +kernel, by decide +kernel⟩

end Client

end NtpQuery
