import NtpQuery.Proofs.Correlator.Overlap
import NtpQuery.Proofs.Correlator.Reply
import NtpQuery.Proofs.Mapping
import NtpQuery.Service

/-!
# A responder that nothing stops

Anyone may send a responder anything. When it is set up with numbers that fit a
packet and texts in ASCII, no datagram makes it fail: what is no request is
counted and passed over, and to what is one it can always write its replies.

`handle_due` says what one datagram does, whatever it is: the responder replies
exactly when it is through with ignoring datagrams and the datagram can be
answered, and its counters tell as much. A run of datagrams adds this up.
-/

namespace NtpQuery

open Wire

/-- All that the responder tells of itself and its peers is ASCII. -/
structure ResponderConfig.Ascii (config : ResponderConfig) : Prop where
  system : ∀ c ∈ config.systemText.toList, c.toNat < 128
  peers : ∀ entry ∈ config.peerTexts, ∀ c ∈ entry.2.toList, c.toNat < 128

instance (config : ResponderConfig) : Decidable config.Ascii :=
  decidable_of_iff
    ((config.systemText.toList.all fun c => c.toNat < 128) &&
      config.peerTexts.all fun entry => entry.2.toList.all fun c => c.toNat < 128)
    (by
      simp only [Bool.and_eq_true, List.all_eq_true, decide_eq_true_eq]
      exact ⟨fun ⟨system, peers⟩ => ⟨system, peers⟩, fun ascii => ⟨ascii.system, ascii.peers⟩⟩)

namespace Responder

def IsClientRequest (data : Bytes) : Prop :=
  HasMode 3 data ∧ clientPacketSize ≤ data.length

def IsControlRequest (data : Bytes) : Prop :=
  HasMode 6 data ∧ controlMinSize ≤ data.length

instance (data : Bytes) : Decidable (IsClientRequest data) :=
  inferInstanceAs (Decidable (_ ∧ _))

instance (data : Bytes) : Decidable (IsControlRequest data) :=
  inferInstanceAs (Decidable (_ ∧ _))

/-- A client request, or a control request about the responder itself or a peer that it tells of. -/
def Answerable (config : ResponderConfig) (data : Bytes) : Prop :=
  IsClientRequest data ∨
    IsControlRequest data ∧ (unsignedAt 6 2 data = 0 ∨
      config.answerPeer = true ∧ unsignedAt 6 2 data ∈ config.peerTexts.keys)

instance (config : ResponderConfig) (data : Bytes) : Decidable (Answerable config data) :=
  inferInstanceAs (Decidable (_ ∨ _))

/-- A datagram is answered when those to be ignored have come before it. -/
def Due (config : ResponderConfig) (seen : Nat) (data : Bytes) : Prop :=
  config.dropFirst.toNat ≤ seen ∧ Answerable config data

instance (config : ResponderConfig) (seen : Nat) (data : Bytes) :
    Decidable (Due config seen data) :=
  inferInstanceAs (Decidable (_ ∧ _))

/-- What a reply says of the request that it answers: when a client sent it and in which version,
or all the numbers of a control request. -/
structure Echoes (config : ResponderConfig) (data reply : Bytes) : Prop where
  client : IsClientRequest data → ∃ request answer,
    ClientPacket.decode data = .ok request ∧ ClientPacket.decode reply = .ok answer ∧
      answer.version = request.version ∧ answer.mode = config.replyMode ∧
      answer.originSeconds = request.transmitSeconds ∧
      answer.originFraction = request.transmitFraction
  control : IsControlRequest data → ∃ request text,
    ControlPacket.decode data = .ok request ∧
      variablesText? config request.association = some text ∧
      ControlPacket.Repeats request text 0 reply

variable {config : ResponderConfig} {now : Int} {data : Bytes}

theorem IsClientRequest.not_control (client : IsClientRequest data) : ¬ IsControlRequest data :=
  fun control => absurd (client.1.unique control.1) (by decide)

/-! ### The texts -/

theorem isSome_variablesText? {association : Int} :
    (variablesText? config association).isSome ↔
      association = 0 ∨ config.answerPeer = true ∧ association ∈ config.peerTexts.keys := by
  rw [variablesText?]
  split
  · rename_i itself
    simp [itself]
  · rename_i other
    split
    · rename_i told
      rw [Mapping.isSome_get?]
      simp [other, told]
    · rename_i untold
      simp [other, untold]

theorem ascii_of_variablesText? (ascii : config.Ascii) {association : Int} {text : String}
    (known : variablesText? config association = some text) : ∀ c ∈ text.toList, c.toNat < 128 := by
  rw [variablesText?] at known
  split at known
  · obtain rfl := Option.some.inj known
    exact ascii.system
  · split at known
    · exact ascii.peers _ (Mapping.mem_of_get? known)
    · simp at known

/-! ### One datagram -/

/-- Where replies are made, they are to what can be answered, and the last one answers it. -/
structure Replied (config : ResponderConfig) (data : Bytes) (all : List Bytes) : Prop where
  nonempty : all ≠ [] ↔ Answerable config data
  last : ∀ reply ∈ all.getLast?, Echoes config data reply

theorem replied_client (fits : config.Fits) (now : Int) (client : IsClientRequest data) :
    ∃ all, replies config now data = .ok all ∧ Replied config data all := by
  have read := ClientPacket.decode_eq_ok.mpr ⟨client.2, rfl⟩
  have mode : modeOf (unsignedAt 0 1 data) = 3 := (hasMode_iff (by decide)).mp client.1
  have asked := ClientPacket.fits_ofOctets data
  have answers : replies config now data = clientReplies config now (.ofOctets data) := by
    simp only [replies, mode, read]
  obtain ⟨answer, answerMode⟩ := answerPacket_spec fits now asked
  refine ⟨_, answers.trans (clientReplies_of_fits fits asked), ?_, ?_⟩
  · exact iff_of_true (by simp) (.inl client)
  · intro reply last
    rw [List.getLast?_concat, Option.mem_some] at last
    refine ⟨fun _ => ⟨_, _, read, last ▸ ClientPacket.decode_octets answer, ?_, answerMode, rfl, rfl⟩,
      fun control => absurd control client.not_control⟩
    exact versionOf_versionAndMode asked.version fits.replyMode

theorem replied_control (ascii : config.Ascii) (now : Int) (control : IsControlRequest data) :
    ∃ all, replies config now data = .ok all ∧ Replied config data all := by
  have read := ControlPacket.decode_eq_ok.mpr ⟨control.2, rfl⟩
  have mode : (ControlPacket.ofOctets data).mode = 6 := (hasMode_iff (by decide)).mp control.1
  have asked := (ControlPacket.fits_of_decode read).1
  have answerable : Answerable config data ↔
      (variablesText? config (ControlPacket.ofOctets data).association).isSome := by
    rw [isSome_variablesText?, Answerable]
    exact ⟨fun told => (told.resolve_left fun client => client.not_control control).2,
      fun told => .inr ⟨control, told⟩⟩
  rw [replies_control read mode]
  cases known : variablesText? config (ControlPacket.ofOctets data).association with
  | none =>
    refine ⟨[], controlReplies_of_none known, ?_, by simp⟩
    simp [answerable, known]
  | some text =>
    have stated : (0 : Int) ≤ 0 ∧ (0 : Int) < 65536 := by decide
    obtain ⟨-, reply, written⟩ := (ControlPacket.response_cases asked stated text).resolve_left
      fun foreign => by
        obtain ⟨⟨c, mem, high⟩, -⟩ := foreign
        exact absurd (ascii_of_variablesText? ascii known c mem) (Nat.not_lt.mpr high)
    obtain ⟨stale, -, replied⟩ := controlReplies_of_written asked known written
    refine ⟨_, replied, ?_, ?_⟩
    · simp [answerable, known]
    · intro last mem
      rw [List.getLast?_concat, Option.mem_some] at mem
      subst mem
      exact ⟨fun client => absurd control client.not_control,
        fun _ => ⟨_, text, read, known, ControlPacket.repeats_response read written⟩⟩

/-- Whatever comes in, the responder can reply to it or has nothing to reply. -/
theorem replied_replies (fits : config.Fits) (ascii : config.Ascii) (now : Int) (data : Bytes) :
    ∃ all, replies config now data = .ok all ∧ Replied config data all := by
  by_cases client : IsClientRequest data
  · exact replied_client fits now client
  by_cases control : IsControlRequest data
  · exact replied_control ascii now control
  have none : replies config now data = .ok [] := by
    rw [replies]
    split
    · rename_i mode read
      exact absurd ⟨(hasMode_iff (by decide)).mpr mode, (ClientPacket.decode_eq_ok.mp read).1⟩ client
    · rename_i mode read
      exact absurd ⟨(hasMode_iff (by decide)).mpr mode, (ControlPacket.decode_eq_ok.mp read).1⟩
        control
    · rfl
  refine ⟨[], none, ?_, by simp⟩
  simp [Answerable, client, control]

/-- What a datagram adds to the counters. -/
def counted (config : ResponderConfig) (data : Bytes) (stats : ResponderStats) : ResponderStats where
  seen := stats.seen + 1
  answered := stats.answered + if Due config stats.seen data then 1 else 0
  dropped := stats.dropped + if stats.seen < config.dropFirst.toNat then 1 else 0

/-- A datagram never makes the responder fail. It is replied to exactly when it is due. -/
theorem handle_due (fits : config.Fits) (ascii : config.Ascii) (now : Int) (data : Bytes)
    (stats : ResponderStats) :
    ∃ all, handle config now data stats = (.ok all, counted config data stats) ∧
      (all ≠ [] ↔ Due config stats.seen data) ∧
      ∀ reply ∈ all.getLast?, Echoes config data reply := by
  by_cases early : stats.seen < config.dropFirst.toNat
  · have undue : ¬ Due config stats.seen data := fun due => absurd due.1 (Nat.not_le.mpr early)
    have ignored : ((stats.seen + 1 : Nat) : Int) ≤ config.dropFirst := by omega
    refine ⟨[], ?_, by simp [undue], by simp⟩
    simp only [handle, counted, if_pos ignored, if_pos early, if_neg undue, Nat.add_zero]
  · have heeded : ¬ ((stats.seen + 1 : Nat) : Int) ≤ config.dropFirst := by omega
    obtain ⟨all, made, nonempty, last⟩ := replied_replies fits ascii now data
    have due : Due config stats.seen data ↔ Answerable config data :=
      ⟨fun due => due.2, fun answerable => ⟨Nat.le_of_not_lt early, answerable⟩⟩
    refine ⟨all, ?_, nonempty.trans due.symm, last⟩
    simp only [handle, counted, if_neg heeded, if_neg early, made, Nat.add_zero, due, ← nonempty]
    cases all with
    | nil => rfl
    | cons reply others => rfl

end Responder

namespace Service

open Responder

/-- Takes datagrams one after the other, each at a Unix second of its own. -/
def takeEach (service : Service) :
    List (Int × Datagram) → List (Except Failure (List Reply)) × Service
  | [] => ([], service)
  | (now, datagram) :: rest =>
    let (result, service) := service.take now datagram
    let (results, service) := service.takeEach rest
    (result :: results, service)

variable {service : Service}

/-- The outcome of taking a datagram as the one after `seen` others. -/
def Answers (config : ResponderConfig) (seen : Nat) (datagram : Datagram)
    (result : Except Failure (List Reply)) : Prop :=
  ∃ replies, result = .ok replies ∧
    (replies ≠ [] ↔ Due config seen datagram.data) ∧
    (∀ reply ∈ replies, reply.destination = datagram.source) ∧
    ∀ reply ∈ replies.getLast?, Echoes config datagram.data reply.data

theorem take_answers (connected : service.connected = true) (fits : service.config.Fits)
    (ascii : service.config.Ascii) (now : Int) (datagram : Datagram) :
    Answers service.config service.stats.seen datagram (service.take now datagram).1 ∧
      (service.take now datagram).2 =
        { service with
          stats := counted service.config datagram.data service.stats
          requestsRev := datagram :: service.requestsRev } := by
  obtain ⟨all, handled, due, last⟩ := handle_due fits ascii now datagram.data service.stats
  have taken : service.take now datagram = (.ok (all.map (⟨·, datagram.source⟩)),
      { service with
        stats := counted service.config datagram.data service.stats
        requestsRev := datagram :: service.requestsRev }) := by
    rw [take, connected, handled]
    rfl
  rw [taken]
  refine ⟨⟨_, rfl, ?_, ?_, ?_⟩, rfl⟩
  · simpa using due
  · simp
  · intro reply mem
    rw [List.getLast?_map] at mem
    obtain ⟨octets, final, rfl⟩ := Option.map_eq_some_iff.mp mem
    exact last octets final

/-! ### A run of datagrams -/

/-- The datagrams that are answered: those that can be among what comes after the ignored ones. -/
def answerables (config : ResponderConfig) (seen : Nat) (arrivals : List (Int × Datagram)) : Nat :=
  (arrivals.drop (config.dropFirst.toNat - seen)).countP fun arrival =>
    Answerable config arrival.2.data

theorem answerables_cons (config : ResponderConfig) (seen : Nat) (arrival : Int × Datagram)
    (rest : List (Int × Datagram)) :
    answerables config seen (arrival :: rest) =
      (if Due config seen arrival.2.data then 1 else 0) + answerables config (seen + 1) rest := by
  by_cases early : seen < config.dropFirst.toNat
  · have undue : ¬ Due config seen arrival.2.data := fun due => absurd due.1 (Nat.not_le.mpr early)
    have left : config.dropFirst.toNat - seen = config.dropFirst.toNat - (seen + 1) + 1 := by omega
    rw [answerables, answerables, left, List.drop_succ_cons, if_neg undue, Nat.zero_add]
  · have due : Due config seen arrival.2.data ↔ Answerable config arrival.2.data :=
      ⟨fun due => due.2, fun answerable => ⟨Nat.le_of_not_lt early, answerable⟩⟩
    have none : config.dropFirst.toNat - seen = 0 ∧ config.dropFirst.toNat - (seen + 1) = 0 := by
      omega
    simp only [answerables, none, List.drop_zero, List.countP_cons, decide_eq_true_eq, due]
    exact Nat.add_comm _ _

/-- Every datagram of a run is taken as `Answers` says, and the counters add up what each of them
adds. -/
theorem takeEach_answers (connected : service.connected = true) (fits : service.config.Fits)
    (ascii : service.config.Ascii) (arrivals : List (Int × Datagram)) :
    (service.takeEach arrivals).2.stats =
        { seen := service.stats.seen + arrivals.length
          answered := service.stats.answered +
            answerables service.config service.stats.seen arrivals
          dropped := service.stats.dropped +
            min arrivals.length (service.config.dropFirst.toNat - service.stats.seen) } ∧
      (service.takeEach arrivals).1.length = arrivals.length ∧
      ∀ i arrival, arrivals[i]? = some arrival →
        ∃ result ∈ (service.takeEach arrivals).1[i]?,
          Answers service.config (service.stats.seen + i) arrival.2 result := by
  induction arrivals generalizing service with
  | nil => simp [takeEach, answerables]
  | cons arrival rest ih =>
    obtain ⟨now, datagram⟩ := arrival
    obtain ⟨answers, after⟩ := take_answers connected fits ascii now datagram
    have step : service.takeEach ((now, datagram) :: rest) =
        ((service.take now datagram).1 :: ((service.take now datagram).2.takeEach rest).1,
          ((service.take now datagram).2.takeEach rest).2) := rfl
    rw [step, after]
    obtain ⟨stats, length, others⟩ :=
      @ih
        { service with
          stats := counted service.config datagram.data service.stats
          requestsRev := datagram :: service.requestsRev } connected fits ascii
    refine ⟨?_, by simp [length], ?_⟩
    · rw [stats, answerables_cons]
      simp only [counted, List.length_cons, ResponderStats.mk.injEq]
      refine ⟨by omega, by omega, ?_⟩
      split
      · omega
      · omega
    · intro i arrival found
      cases i with
      | zero =>
        obtain rfl := Option.some.inj found
        exact ⟨_, rfl, answers⟩
      | succ i =>
        obtain ⟨result, mem, answered⟩ := others i arrival found
        refine ⟨result, mem, ?_⟩
        rw [← Nat.add_assoc, Nat.add_right_comm]
        exact answered

/-- Whatever datagrams a fresh responder takes, none of them makes it fail. It counts all of them,
the ignored ones and the answered ones. Behind the ignored ones, the requests that it can answer get
replies, the last of them with what the request says, and nothing else does. -/
theorem takeEach_counts (service : Service) (arrivals : List (Int × Datagram))
    (connected : service.connected = true) (fresh : service.stats = {})
    (fits : service.config.Fits) (ascii : service.config.Ascii) :
    let ignored := service.config.dropFirst.toNat
    let run := service.takeEach arrivals
    run.2.stats =
        { seen := arrivals.length
          dropped := min arrivals.length ignored
          answered := (arrivals.drop ignored).countP fun arrival =>
            Answerable service.config arrival.2.data } ∧
      run.1.length = arrivals.length ∧
      ∀ i now datagram, arrivals[i]? = some (now, datagram) →
        ∃ replies, run.1[i]? = some (.ok replies) ∧
          (replies ≠ [] ↔ ignored ≤ i ∧ Answerable service.config datagram.data) ∧
          (∀ reply ∈ replies, reply.destination = datagram.source) ∧
          ∀ reply ∈ replies.getLast?, Echoes service.config datagram.data reply.data := by
  obtain ⟨stats, length, each⟩ := takeEach_answers connected fits ascii arrivals
  rw [fresh] at stats each
  refine ⟨?_, length, ?_⟩
  · simpa [answerables] using stats
  · intro i now datagram found
    obtain ⟨_, taken, replies, rfl, due, addressed, last⟩ := each i _ found
    rw [Nat.zero_add] at due
    exact ⟨replies, taken, due, addressed, last⟩

/-- A client request that comes too early, nothing, a control request about the known peer and one
about another, one that is cut, and the client request again. -/
theorem takeEach_counts_mixed :
    let config : ResponderConfig := { dropFirst := 1, staleFirst := true, shortFirst := true }
    let service : Service := { config, running := true, connected := true }
    let asking : Bytes := 35 :: List.replicate 47 5
    let about (association : Bytes) : Bytes :=
      [30, 2, 0, 9, 0, 0] ++ association ++ [0, 0, 0, 0, 0]
    let source : Endpoint := ⟨"192.0.2.7", 9⟩
    let arrivals := [asking, [], about [16, 146], about [0, 1], (about [16, 146]).take 12, asking].map
      fun data => ((1700000000 : Int), Datagram.mk data source)
    (service.connected = true ∧ service.stats = {} ∧ config.Fits ∧ config.Ascii) ∧
      (service.takeEach arrivals).2.stats = { seen := 6, answered := 2, dropped := 1 } ∧
      ∃ replies last, (service.takeEach arrivals).1[5]? = some (.ok replies) ∧
        replies.getLast? = some last ∧ last.destination = source ∧
        Echoes config asking last.data := by
  intro config service asking about source arrivals
  have fits : config.Fits := ⟨by decide, by decide, by decide, by decide⟩
  have ascii : config.Ascii := by decide +kernel
  obtain ⟨stats, -, each⟩ := takeEach_counts service arrivals rfl rfl fits ascii
  obtain ⟨replies, taken, due, addressed, last⟩ := each 5 1700000000 ⟨asking, source⟩ rfl
  have filled : replies ≠ [] := due.mpr (by decide +kernel)
  have final := List.getLast?_eq_some_getLast filled
  refine ⟨⟨rfl, rfl, fits, ascii⟩, ?_, replies, _, taken, final, ?_, last _ final⟩
  · rw [stats]
    decide +kernel
  · exact addressed _ (List.getLast_mem filled)

end Service

end NtpQuery
