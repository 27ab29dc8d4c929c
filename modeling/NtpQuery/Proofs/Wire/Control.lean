import Mathlib.Data.List.TakeWhile
import NtpQuery.Proofs.Wire.Field
import NtpQuery.Wire.Control

/-!
# Control packets read back

A control packet whose fields fit can be written, and reading what was written
gives the packet back with its sequence and association numbers reduced to 16
bits. Every datagram that can be read at all yields a packet whose fields fit,
so that a packet that was received can be written again.

A response repeats the numbers of its request and carries what fits one datagram
of its text, unchanged as long as it is ASCII without a NUL.
-/

namespace NtpQuery

namespace Text

theorem encodeAscii?_cons {c : Char} {text : List Char} {octets : Bytes} :
    encodeAscii? (c :: text) = some octets ↔
      c.toNat < 128 ∧ ∃ rest, encodeAscii? text = some rest ∧
        octets = UInt8.ofNat c.toNat :: rest := by
  rw [encodeAscii?, List.mapM_cons]
  by_cases ascii : c.toNat < 128
  · rcases h : text.mapM fun c => if c.toNat < 128 then some (UInt8.ofNat c.toNat) else none
      with _ | rest
    · simp [encodeAscii?, ascii, h]
    · simp [encodeAscii?, ascii, h, eq_comm]
  · simp [ascii]

theorem toNat_ofNat_octet {c : Char} (ascii : c.toNat < 128) :
    (UInt8.ofNat c.toNat).toNat = c.toNat := by
  rw [UInt8.toNat_ofNat']
  exact Nat.mod_eq_of_lt (by omega)

theorem decodeAscii_of_encodeAscii? {text : List Char} {octets : Bytes}
    (h : encodeAscii? text = some octets) : decodeAscii octets = text := by
  induction text generalizing octets with
  | nil =>
    obtain rfl : [] = octets := by simpa [encodeAscii?] using h
    rfl
  | cons c text ih =>
    obtain ⟨ascii, rest, hr, rfl⟩ := encodeAscii?_cons.mp h
    have first : decodeOctet (UInt8.ofNat c.toNat) = c := by
      rw [decodeOctet, toNat_ofNat_octet ascii, if_pos ascii, Char.ofNat_toNat]
    rw [decodeAscii, List.map_cons, first]
    exact congrArg (c :: ·) (ih hr)

theorem encodeAscii?_isSome {text : List Char} (h : ∀ c ∈ text, c.toNat < 128) :
    ∃ octets, encodeAscii? text = some octets := by
  induction text with
  | nil => exact ⟨[], rfl⟩
  | cons c text ih =>
    obtain ⟨rest, hr⟩ := ih fun d mem => h d (List.mem_cons_of_mem _ mem)
    exact ⟨_, encodeAscii?_cons.mpr ⟨h c List.mem_cons_self, rest, hr, rfl⟩⟩

theorem ascii_of_encodeAscii? {text : List Char} {octets : Bytes}
    (h : encodeAscii? text = some octets) : ∀ c ∈ text, c.toNat < 128 := by
  induction text generalizing octets with
  | nil => simp
  | cons c text ih =>
    obtain ⟨ascii, rest, hr, -⟩ := encodeAscii?_cons.mp h
    exact List.forall_mem_cons.mpr ⟨ascii, ih hr⟩

theorem length_of_encodeAscii? {text : List Char} {octets : Bytes}
    (h : encodeAscii? text = some octets) : octets.length = text.length := by
  rw [← decodeAscii_of_encodeAscii? h, length_decodeAscii]

theorem encodeAscii?_take {text : List Char} {octets : Bytes}
    (h : encodeAscii? text = some octets) (n : Nat) :
    encodeAscii? (text.take n) = some (octets.take n) := by
  induction n generalizing text octets with
  | zero => rfl
  | succ n ih =>
    cases text with
    | nil =>
      obtain rfl : [] = octets := by simpa [encodeAscii?] using h
      rfl
    | cons c text =>
      obtain ⟨ascii, rest, hr, rfl⟩ := encodeAscii?_cons.mp h
      exact encodeAscii?_cons.mpr ⟨ascii, rest.take n, ih hr, rfl⟩

/-- The octets before the first zero are those of the characters before the first NUL. -/
theorem encodeAscii?_upToZero {text : List Char} {octets : Bytes}
    (h : encodeAscii? text = some octets) :
    encodeAscii? (text.takeWhile (· ≠ '\x00')) = some octets.upToZero := by
  induction text generalizing octets with
  | nil =>
    obtain rfl : [] = octets := by simpa [encodeAscii?] using h
    rfl
  | cons c text ih =>
    obtain ⟨ascii, rest, hr, rfl⟩ := encodeAscii?_cons.mp h
    have value := toNat_ofNat_octet ascii
    by_cases nul : c = '\x00'
    · subst nul
      rfl
    · have nonzero : UInt8.ofNat c.toNat ≠ 0 := by
        intro zero
        rw [zero] at value
        apply nul
        rw [← Char.ofNat_toNat c, ← value]
        rfl
      have tail := ih hr
      rw [Bytes.upToZero] at tail ⊢
      rw [List.takeWhile_cons_of_pos (by simpa using nul),
        List.takeWhile_cons_of_pos (by simpa using nonzero)]
      exact encodeAscii?_cons.mpr ⟨ascii, _, tail, rfl⟩

end Text

open Wire

namespace ControlPacket

/-- The fields that are written as they are fit their octets. -/
structure Fits (p : ControlPacket) : Prop where
  versionMode : 0 ≤ p.versionMode ∧ p.versionMode < 256
  op : 0 ≤ p.op ∧ p.op < 256
  status : 0 ≤ p.status ∧ p.status < 65536
  offset : 0 ≤ p.offset ∧ p.offset < 65536
  count : 0 ≤ p.count ∧ p.count < 65536

/-- A packet as it is read back after it was written in front of a payload. -/
def readBack (p : ControlPacket) (payload : Bytes) : ControlPacket :=
  { p with
    sequence := p.sequence % 65536
    association := p.association % 65536
    data := payload.take controlDataSize }

def headerOctets (p : ControlPacket) : Bytes :=
  Bytes.ofNat 1 p.versionMode.toNat ++ (Bytes.ofNat 1 p.op.toNat ++
    (Bytes.ofNat 2 (p.sequence % 65536).toNat ++ (Bytes.ofNat 2 p.status.toNat ++
      (Bytes.ofNat 2 (p.association % 65536).toNat ++ (Bytes.ofNat 2 p.offset.toNat ++
        (Bytes.ofNat 2 p.count.toNat ++ []))))))

variable {p : ControlPacket}

theorem header_eq_ok {octets : Bytes} :
    p.header = .ok octets ↔ p.Fits ∧ octets = p.headerOctets := by
  simp only [header, concat_cons_eq_ok, concat_nil_eq_ok, unsigned_eq_ok]
  constructor
  · rintro ⟨_, _, ⟨v, v', rfl⟩, ⟨_, _, ⟨o, o', rfl⟩, ⟨_, _, ⟨-, -, rfl⟩, ⟨_, _, ⟨s, s', rfl⟩,
      ⟨_, _, ⟨-, -, rfl⟩, ⟨_, _, ⟨f, f', rfl⟩, ⟨_, _, ⟨c, c', rfl⟩, rfl, rfl⟩, rfl⟩, rfl⟩, rfl⟩,
      rfl⟩, rfl⟩, rfl⟩
    exact ⟨⟨⟨v, v'⟩, ⟨o, o'⟩, ⟨s, s'⟩, ⟨f, f'⟩, ⟨c, c'⟩⟩, rfl⟩
  · rintro ⟨⟨v, o, s, f, c⟩, rfl⟩
    refine ⟨_, _, ⟨v.1, v.2, rfl⟩, ⟨_, _, ⟨o.1, o.2, rfl⟩, ⟨_, _, ⟨?_, ?_, rfl⟩,
      ⟨_, _, ⟨s.1, s.2, rfl⟩, ⟨_, _, ⟨?_, ?_, rfl⟩, ⟨_, _, ⟨f.1, f.2, rfl⟩,
      ⟨_, _, ⟨c.1, c.2, rfl⟩, rfl, rfl⟩, rfl⟩, rfl⟩, rfl⟩, rfl⟩, rfl⟩, rfl⟩
    all_goals omega

theorem encode_eq_ok {octets : Bytes} :
    p.encode = .ok octets ↔
      p.Fits ∧ octets = p.headerOctets ++ p.data.take controlDataSize := by
  rw [encode]
  constructor
  · intro h
    rcases written : p.header with failure | header
    · simp [written, Except.map] at h
    · obtain ⟨fits, rfl⟩ := header_eq_ok.mp written
      simp only [written, Except.map, Except.ok.injEq] at h
      exact ⟨fits, h.symm⟩
  · rintro ⟨fits, rfl⟩
    rw [header_eq_ok.mpr ⟨fits, rfl⟩]
    rfl

/-- A packet that does not fit cannot be written. -/
theorem header_of_not_fits (unfit : ¬ p.Fits) : p.header = .error .fieldOutOfRange :=
  concat_eq_error fun _ written => unfit (header_eq_ok.mp written).1

@[simp] theorem length_headerOctets (p : ControlPacket) :
    p.headerOctets.length = controlHeaderSize := by
  simp [headerOctets, controlHeaderSize]

/-- Padding is done on what is written anyway. -/
theorem encodePadded_eq (p : ControlPacket) :
    p.encodePadded = p.encode.map (Bytes.padTo controlPacketSize) := by
  rw [encodePadded, encode]
  rcases written : p.header with failure | header
  · rfl
  · obtain ⟨-, rfl⟩ := header_eq_ok.mp written
    have missing : controlDataSize - (p.data.take controlDataSize).length =
        controlPacketSize - (p.headerOctets ++ p.data.take controlDataSize).length := by
      rw [List.length_append, length_headerOctets]
      simp only [controlHeaderSize, controlDataSize, controlPacketSize]
      omega
    simp only [Except.map, Bytes.padTo, missing, List.append_assoc]

/-- What the octets of a datagram say when there are enough of them. -/
def ofOctets (data : Bytes) : ControlPacket where
  versionMode := unsignedAt 0 1 data
  op := unsignedAt 1 1 data
  sequence := unsignedAt 2 2 data
  status := unsignedAt 4 2 data
  association := unsignedAt 6 2 data
  offset := unsignedAt 8 2 data
  count := unsignedAt 10 2 data
  data := (data.drop controlHeaderSize).take controlDataSize

theorem decode_eq_ok {data : Bytes} :
    decode data = .ok p ↔ controlMinSize ≤ data.length ∧ p = ofOctets data := by
  constructor
  · intro h
    rw [decode] at h
    split at h
    · simp at h
    · rename_i long
      exact ⟨Nat.le_of_not_lt long, (Except.ok.inj h).symm⟩
  · rintro ⟨long, rfl⟩
    rw [decode, if_neg (Nat.not_lt_of_le long)]
    rfl

/-- A header is read as it was written, whatever stands behind it. -/
theorem ofOctets_headerOctets (fits : p.Fits) (payload : Bytes) :
    ofOctets (p.headerOctets ++ payload) = p.readBack payload := by
  obtain ⟨v, o, s, f, c⟩ := fits
  rw [ofOctets, List.drop_left' (length_headerOctets p)]
  simp (disch := simp) only [headerOctets, List.append_assoc, unsignedAt_append, unsignedAt_ofNat,
    Bytes.length_ofNat, Nat.reduceSub]
  simp only [readBack, ControlPacket.mk.injEq, and_true]
  refine ⟨?_, ?_, ?_, ?_, ?_, ?_, ?_⟩
  all_goals omega

theorem decode_headerOctets (fits : p.Fits) {payload : Bytes} (filled : payload ≠ []) :
    decode (p.headerOctets ++ payload) = .ok (p.readBack payload) := by
  have some_payload := List.length_pos_iff.mpr filled
  have long : controlMinSize ≤ (p.headerOctets ++ payload).length := by
    rw [List.length_append, length_headerOctets]
    simp only [controlHeaderSize, controlMinSize]
    omega
  exact decode_eq_ok.mpr ⟨long, (ofOctets_headerOctets fits payload).symm⟩

/-- Whatever is read fits, and its numbers have 16 bits. -/
theorem fits_of_decode {data : Bytes} (h : decode data = .ok p) :
    p.Fits ∧ (0 ≤ p.sequence ∧ p.sequence < 65536) ∧ (0 ≤ p.association ∧ p.association < 65536) ∧
      p.data.length ≤ controlDataSize := by
  obtain ⟨-, rfl⟩ := decode_eq_ok.mp h
  have octet : ∀ start, 0 ≤ unsignedAt start 1 data ∧ unsignedAt start 1 data < 256 := by
    intro start
    exact ⟨unsignedAt_nonneg start 1 data, unsignedAt_lt start 1 data⟩
  have word : ∀ start, 0 ≤ unsignedAt start 2 data ∧ unsignedAt start 2 data < 65536 := by
    intro start
    exact ⟨unsignedAt_nonneg start 2 data, unsignedAt_lt start 2 data⟩
  exact ⟨⟨octet 0, octet 1, word 4, word 8, word 10⟩, word 2, word 6, List.length_take_le _ _⟩

/-- What was read is written as it was, as far as it was looked at. -/
theorem encode_ofOctets {data : Bytes} (long : controlMinSize ≤ data.length) :
    (ofOctets data).encode = .ok (data.take controlPacketSize) := by
  refine encode_eq_ok.mpr ⟨(fits_of_decode (decode_eq_ok.mpr ⟨long, rfl⟩)).1, ?_⟩
  have number : ∀ start, unsignedAt start 2 data % 65536 = unsignedAt start 2 data := fun start =>
    Int.emod_eq_of_lt (unsignedAt_nonneg start 2 data) (unsignedAt_lt start 2 data)
  have header : (ofOctets data).headerOctets = data.take controlHeaderSize := by
    simp only [headerOctets, ofOctets, number]
    simp only [controlMinSize] at long
    simp (disch := omega) only [ofNat_unsignedAt, List.append_nil, slice_append data 8 2 2,
      slice_append data 6 2 4, slice_append data 4 2 6, slice_append data 2 2 8,
      slice_append data 1 1 10, Nat.reduceAdd]
    exact slice_append data 0 1 11
  rw [header]
  simp only [ofOctets, List.take_take, Nat.min_self]
  exact (slice_append data 0 controlHeaderSize controlDataSize).symm

theorem length_text_le {data : Bytes} (h : decode data = .ok p) :
    p.text.toList.length ≤ controlDataSize := by
  have payload := (fits_of_decode h).2.2.2
  have front : p.data.upToZero.length ≤ p.data.length := (List.takeWhile_prefix _).length_le
  rw [text, String.toList_ofList, Text.length_decodeAscii]
  omega

/-- The response bit is the top bit of the second octet. -/
theorem second_of_isResponse {data : Bytes} (h : decode data = .ok p)
    (response : p.isResponse = true) :
    ∃ octet, data[1]? = some octet ∧ 128 ≤ octet.toNat := by
  obtain ⟨long, rfl⟩ := decode_eq_ok.mp h
  rcases data with _ | ⟨first, _ | ⟨octet, rest⟩⟩
  · simp [controlMinSize] at long
  · simp [controlMinSize] at long
  · refine ⟨octet, rfl, ?_⟩
    have op : unsignedAt 1 1 (first :: octet :: rest) = octet.toNat := by
      simp [unsignedAt, Bytes.toNat]
    have small := octet.toNat_lt
    simp only [isResponse, hasResponseBit, ofOctets, op, decide_eq_true_eq] at response
    omega

/-- The request for the variables of an association, as it is read. Behind the names are zeros. -/
def question (association sequence : Int) : ControlPacket where
  sequence := sequence % 65536
  association := association % 65536
  count := (asciiBytes (variablesFor association)).length
  data := Bytes.padTo controlDataSize (asciiBytes (variablesFor association))

theorem length_variablesFor (association : Int) :
    (asciiBytes (variablesFor association)).length ≤ controlDataSize := by
  rw [variablesFor]
  split
  · decide
  · decide

/-- Every request can be written, fills a datagram of full size and is read back as the question
that it was made to ask. -/
theorem request_spec (association sequence : Int) :
    ∃ payload, request 2 association sequence = .ok payload ∧
      payload.length = controlPacketSize ∧ decode payload = .ok (question association sequence) := by
  have short := length_variablesFor association
  have few : (asciiBytes (variablesFor association)).length ≤ 500 := short
  have fits : (requestPacket 2 association sequence).Fits := by
    refine ⟨?_, ?_, ?_, ?_, ?_⟩
    all_goals
      simp only [requestPacket]
      omega
  have names : (requestPacket 2 association sequence).data.take controlDataSize =
      asciiBytes (variablesFor association) := List.take_of_length_le short
  have full : (Bytes.padTo controlDataSize (asciiBytes (variablesFor association))).length =
      controlDataSize := by
    simp only [Bytes.padTo, List.length_append, List.length_replicate]
    omega
  have filled : Bytes.padTo controlDataSize (asciiBytes (variablesFor association)) ≠ [] := by
    intro empty
    rw [empty] at full
    simp [controlDataSize] at full
  refine ⟨_, ?_, ?_, (decode_headerOctets fits filled).trans ?_⟩
  · rw [request, encodePadded, header_eq_ok.mpr ⟨fits, rfl⟩, names]
    rfl
  · rw [List.length_append, full, length_headerOctets]
    rfl
  · rw [readBack, List.take_of_length_le (Nat.le_of_eq full)]
    rfl

/-- Every request can be written, and it asks what it was made to ask. -/
theorem request_ok (association sequence : Int) :
    ∃ payload, request 2 association sequence = .ok payload ∧
      ∃ q, decode payload = .ok q ∧ q.sequence = sequence % 65536 ∧
        q.association = association % 65536 := by
  obtain ⟨payload, written, -, read⟩ := request_spec association sequence
  exact ⟨payload, written, _, read, rfl, rfl⟩

/-- A text that a response carries unchanged. -/
structure Plain (text : String) : Prop where
  nonempty : text.toList ≠ []
  short : text.toList.length ≤ controlDataSize
  terminated : '\x00' ∉ text.toList

/-- The response to a request with the given octets of text. -/
def responsePacket (request : ControlPacket) (octets : Bytes) (status : Int) : ControlPacket where
  versionMode := request.versionMode
  op := withResponseBit request.op
  sequence := request.sequence
  status
  association := request.association
  count := (octets.take controlDataSize).length
  data := octets.take controlDataSize

theorem response_eq_ok {request : ControlPacket} {text : String} {status : Int} {data : Bytes} :
    ControlPacket.response request text status = .ok data ↔
      ∃ octets, Text.encodeAscii? text.toList = some octets ∧
        (responsePacket request octets status).Fits ∧
        data = (responsePacket request octets status).headerOctets ++
          octets.take controlDataSize := by
  rw [ControlPacket.response]
  cases ascii : Text.encodeAscii? text.toList with
  | none => simp
  | some octets =>
    have payload : (responsePacket request octets status).data.take controlDataSize =
        octets.take controlDataSize := by
      simp only [responsePacket, List.take_take, Nat.min_self]
    have written : encode (responsePacket request octets status) = .ok data ↔ _ := encode_eq_ok
    rw [payload] at written
    simp only [Option.some.injEq, exists_eq_left']
    exact written

theorem length_response {request : ControlPacket} {text : String} {status : Int} {data : Bytes}
    (h : ControlPacket.response request text status = .ok data) :
    data.length ≤ controlPacketSize := by
  obtain ⟨octets, -, -, rfl⟩ := response_eq_ok.mp h
  have payload := List.length_take_le controlDataSize octets
  rw [List.length_append, length_headerOctets]
  simp only [controlHeaderSize, controlPacketSize, controlDataSize] at payload ⊢
  omega

@[simp] theorem hasResponseBit_withResponseBit (op : Int) :
    hasResponseBit (withResponseBit op) = true := by
  rw [withResponseBit]
  split
  · assumption
  · rename_i request
    simp only [hasResponseBit, decide_eq_true_eq] at request ⊢
    omega

/-- A text of ASCII characters, none of them NUL and at least one of them. -/
structure Legible (text : String) : Prop where
  nonempty : text.toList ≠ []
  ascii : ∀ c ∈ text.toList, 0 < c.toNat ∧ c.toNat < 128

theorem legible_iff {text : String} :
    Legible text ↔
      text.toList ≠ [] ∧ text.toList.all (fun c => 0 < c.toNat && c.toNat < 128) = true := by
  simp only [List.all_eq_true, Bool.and_eq_true, decide_eq_true_eq]
  exact ⟨fun legible => ⟨legible.nonempty, legible.ascii⟩,
    fun ⟨nonempty, ascii⟩ => ⟨nonempty, ascii⟩⟩

instance (text : String) : Decidable (Legible text) := decidable_of_iff _ legible_iff.symm

theorem Legible.terminated {text : String} (legible : Legible text) :
    '\x00' ∉ text.toList := by
  intro mem
  exact absurd (legible.ascii _ mem).1 (by decide)

theorem or_eq_add {n : Nat} (low : n < 128) : n ||| 128 = n + 128 := by
  have apart := Nat.shiftLeft_add_eq_or_of_lt (b := n) (i := 7) low 1
  rw [Nat.shiftLeft_eq] at apart
  rw [Nat.or_comm, Nat.add_comm]
  exact apart.symm

/-- The response bit is set and the other bits are kept. -/
theorem withResponseBit_eq_or {op : Int} (octet : 0 ≤ op ∧ op < 256) :
    withResponseBit op = ((op.toNat ||| 128 : Nat) : Int) := by
  obtain ⟨n, rfl⟩ := Int.eq_ofNat_of_zero_le octet.1
  rw [withResponseBit, hasResponseBit, Int.toNat_natCast]
  by_cases low : n < 128
  · rw [if_neg (by simp; omega), or_eq_add low]
    rfl
  · obtain ⟨m, rfl⟩ := Nat.exists_eq_add_of_le' (Nat.le_of_not_lt low)
    rw [if_pos (by simp; omega), ← or_eq_add (by omega), Nat.or_assoc, Nat.or_self]

/-- A response to what fits has fields that fit. -/
theorem fits_responsePacket {request : ControlPacket} (fits : request.Fits) (octets : Bytes)
    {status : Int} (stated : 0 ≤ status ∧ status < 65536) :
    (responsePacket request octets status).Fits := by
  have payload := List.length_take_le controlDataSize octets
  have op : 0 ≤ withResponseBit request.op ∧ withResponseBit request.op < 256 := by
    have := fits.op
    rw [withResponseBit]
    split
    · exact fits.op
    · rename_i request
      simp only [hasResponseBit, decide_eq_true_eq] at request
      omega
  refine ⟨fits.versionMode, op, stated, ?_, ?_⟩
  all_goals
    simp only [responsePacket, controlDataSize] at payload ⊢
    omega

/-- A response can be written to whatever can be written, when its text is legible. -/
theorem response_ok {request : ControlPacket} (fits : request.Fits) {text : String}
    (legible : Legible text) :
    ∃ data, ControlPacket.response request text 0 = .ok data := by
  obtain ⟨octets, encoded⟩ :=
    Text.encodeAscii?_isSome fun c mem => (legible.ascii c mem).2
  exact ⟨_, response_eq_ok.mpr
    ⟨octets, encoded, fits_responsePacket fits octets (by decide), rfl⟩⟩

/-- The part of a text that a response carries. -/
def carried (text : String) : String :=
  String.ofList (text.toList.take controlDataSize)

theorem length_carried (text : String) : (carried text).toList.length ≤ controlDataSize := by
  rw [carried, String.toList_ofList]
  exact List.length_take_le _ _

theorem take_ne_nil {α : Type} {list : List α} (nonempty : list ≠ []) :
    list.take controlDataSize ≠ [] := by
  intro empty
  rcases List.take_eq_nil_iff.mp empty with zero | none
  · simp [controlDataSize] at zero
  · exact nonempty none

theorem isEmpty_carried {text : String} (nonempty : text.toList ≠ []) :
    (carried text).isEmpty = false := by
  rw [carried, String.isEmpty_eq_false_iff]
  intro empty
  apply take_ne_nil nonempty
  rw [← @String.toList_ofList (text.toList.take controlDataSize), empty]
  rfl

/-- A response with text is read back as one, with its numbers in 16 bits and what it carries of
the text, up to the first NUL. -/
theorem decode_response_shown {request : ControlPacket} {data : Bytes} {text : String}
    {status : Int} (nonempty : text.toList ≠ [])
    (h : ControlPacket.response request text status = .ok data) :
    ∃ packet, decode data = .ok packet ∧ packet.isResponse = true ∧
      packet.sequence = request.sequence % 65536 ∧
      packet.association = request.association % 65536 ∧
      packet.text = String.ofList ((carried text).toList.takeWhile (· ≠ '\x00')) := by
  obtain ⟨octets, ascii, fits, rfl⟩ := response_eq_ok.mp h
  have part := Text.encodeAscii?_take ascii controlDataSize
  have read := Text.decodeAscii_of_encodeAscii? (Text.encodeAscii?_upToZero part)
  have filled : octets.take controlDataSize ≠ [] := by
    intro empty
    have length := Text.length_of_encodeAscii? part
    rw [empty] at length
    exact take_ne_nil nonempty (List.length_eq_zero_iff.mp length.symm)
  refine ⟨_, decode_headerOctets fits filled, ?_, rfl, rfl, ?_⟩
  · exact hasResponseBit_withResponseBit request.op
  · simp only [ControlPacket.text, readBack, List.take_take, Nat.min_self, read, carried,
      String.toList_ofList]

/-- Of a text without a NUL all that is carried is read back. -/
theorem decode_response_eq {request : ControlPacket} {data : Bytes} {text : String} {status : Int}
    (nonempty : text.toList ≠ []) (terminated : '\x00' ∉ text.toList)
    (h : ControlPacket.response request text status = .ok data) :
    ∃ packet, decode data = .ok packet ∧ packet.isResponse = true ∧
      packet.sequence = request.sequence % 65536 ∧
      packet.association = request.association % 65536 ∧ packet.text = carried text := by
  obtain ⟨packet, read, response, number, named, shown⟩ := decode_response_shown nonempty h
  refine ⟨packet, read, response, number, named, shown.trans ?_⟩
  have whole : (carried text).toList.takeWhile (· ≠ '\x00') = (carried text).toList := by
    apply List.takeWhile_eq_self_iff.mpr
    intro c mem
    rw [carried, String.toList_ofList] at mem
    simpa using fun nul : c = '\x00' => terminated (nul ▸ List.mem_of_mem_take mem)
  rw [whole, String.ofList_toList]

/-- A response to a packet that was read is read back with its numbers and the text. -/
theorem decode_response {request : ControlPacket} {sent data : Bytes} {text : String}
    {status : Int} (asked : decode sent = .ok request) (plain : Plain text)
    (h : ControlPacket.response request text status = .ok data) :
    ∃ packet, decode data = .ok packet ∧ packet.sequence = request.sequence ∧
      packet.association = request.association ∧ packet.text = text := by
  obtain ⟨-, sequence, association, -⟩ := fits_of_decode asked
  obtain ⟨packet, read, -, number, named, shown⟩ :=
    decode_response_eq plain.nonempty plain.terminated h
  refine ⟨packet, read, by omega, by omega, ?_⟩
  rw [shown, carried, List.take_of_length_le plain.short, String.ofList_toList]

end ControlPacket

end NtpQuery
