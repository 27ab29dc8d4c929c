import NtpQuery.Proofs.Correlator.Overlap

/-!
# Verdicts from the octets of a datagram

A correlator makes its checks in a fixed order. Read off the octets of a
datagram they are the conditions of `controlChecks` and `clientChecks`: whatever
meets all of them is accepted, and anything else is turned away for the first
one that it does not meet. What was accepted is written again as it came, up to
the size of its format.

A matcher decides by the datagram at hand alone. However many datagrams it was
offered before, the reason that it remembers is the one for the last of them.
-/

namespace NtpQuery

namespace Wire

/-- The octet at a position as a number; zero behind the end. -/
def octetAt (position : Nat) (data : Bytes) : Nat :=
  (data.getD position 0).toNat

theorem unsignedAt_one (position : Nat) (data : Bytes) :
    unsignedAt position 1 data = octetAt position data := by
  rw [unsignedAt, octetAt, List.getD_eq_getElem?_getD, ← List.head?_drop]
  cases data.drop position with
  | nil => rfl
  | cons octet rest => simp [Bytes.toNat]

/-- The top bit of an octet. -/
theorem testBit_octetAt (position : Nat) (data : Bytes) :
    (octetAt position data).testBit 7 = true ↔ 128 ≤ octetAt position data := by
  have small : octetAt position data < 256 := UInt8.toNat_lt _
  rw [Nat.testBit_eq_decide_div_mod_eq, decide_eq_true_iff]
  omega

end Wire

open Wire

/-- A condition, and the reason to turn away a datagram that does not meet it. -/
structure Check where
  reason : Mismatch
  meets : Datagram → Bool

namespace Check

/-- The reason of the first check that a datagram does not meet. -/
def firstFailing (checks : List Check) (datagram : Datagram) : Option Mismatch :=
  (checks.find? fun check => !check.meets datagram).map (·.reason)

@[simp] theorem firstFailing_nil (datagram : Datagram) : firstFailing [] datagram = none := rfl

@[simp] theorem firstFailing_cons (check : Check) (checks : List Check) (datagram : Datagram) :
    firstFailing (check :: checks) datagram =
      if check.meets datagram then firstFailing checks datagram else some check.reason := by
  rw [firstFailing, List.find?_cons]
  cases check.meets datagram <;> rfl

theorem firstFailing_eq_none {checks : List Check} {datagram : Datagram} :
    firstFailing checks datagram = none ↔ ∀ check ∈ checks, check.meets datagram = true := by
  simp [firstFailing]

end Check

namespace Correlator

/-- What a control response has to show, in the order in which it is looked at. -/
def controlChecks (destination : Endpoint) (sequence : Int) : List Check :=
  [⟨.short, fun datagram => 13 ≤ datagram.data.length⟩,
   ⟨.notResponse, fun datagram => (octetAt 1 datagram.data).testBit 7⟩,
   ⟨.wrongSource, fun datagram => datagram.source.host = destination.host⟩,
   ⟨.wrongPort, fun datagram => datagram.source.port = destination.port⟩,
   ⟨.wrongSequence, fun datagram =>
      (octetAt 2 datagram.data : Int) * 256 + octetAt 3 datagram.data = sequence⟩]

/-- What an answer to a client request has to show, in the same way. -/
def clientChecks (destination : Endpoint) : List Check :=
  [⟨.short, fun datagram => 48 ≤ datagram.data.length⟩,
   ⟨.notServerMode, fun datagram => octetAt 0 datagram.data % 8 = 4⟩,
   ⟨.wrongSource, fun datagram => datagram.source.host = destination.host⟩]

/-- The packet when no check fails, otherwise the reason of the first that does. -/
def decided {α : Type} (checks : List Check) (read : Bytes → α) (datagram : Datagram) :
    Except Mismatch α :=
  match Check.firstFailing checks datagram with
  | none => .ok (read datagram.data)
  | some reason => .error reason

@[simp] theorem decided_nil {α : Type} (read : Bytes → α) (datagram : Datagram) :
    decided [] read datagram = .ok (read datagram.data) := rfl

@[simp] theorem decided_cons {α : Type} (check : Check) (checks : List Check) (read : Bytes → α)
    (datagram : Datagram) :
    decided (check :: checks) read datagram =
      if check.meets datagram then decided checks read datagram else .error check.reason := by
  rw [decided, Check.firstFailing_cons]
  cases check.meets datagram with
  | false => rfl
  | true => rfl

theorem isResponse_eq_testBit (data : Bytes) :
    (ControlPacket.ofOctets data).isResponse = (octetAt 1 data).testBit 7 := by
  rw [Bool.eq_iff_iff, ControlPacket.isResponse_ofOctets, unsignedAt_one, testBit_octetAt]
  exact Int.ofNat_le

theorem sequence_ofOctets {data : Bytes} (long : controlMinSize ≤ data.length) :
    (ControlPacket.ofOctets data).sequence = (octetAt 2 data : Int) * 256 + octetAt 3 data := by
  simp only [controlMinSize] at long
  simp only [ControlPacket.ofOctets]
  rw [unsignedAt_two (by omega), unsignedAt_one, unsignedAt_one]

theorem mode_ofOctets (data : Bytes) :
    (ClientPacket.ofOctets data).mode = 4 ↔ octetAt 0 data % 8 = 4 := by
  simp only [ClientPacket.mode, ClientPacket.ofOctets, modeOf, unsignedAt_one]
  omega

variable {destination : Endpoint} {sequence : Int} {datagram : Datagram}

theorem control_eq_decided :
    control destination sequence datagram =
      decided (controlChecks destination sequence) ControlPacket.ofOctets datagram := by
  by_cases long : controlMinSize ≤ datagram.data.length
  · have enough : 13 ≤ datagram.data.length := long
    simp only [control, ControlPacket.decode_eq_ok.mpr ⟨long, rfl⟩, isResponse_eq_testBit,
      sequence_ofOctets long, controlChecks, decided_cons, decided_nil, enough, decide_true,
      decide_eq_true_eq, Bool.not_eq_true', ne_eq, ite_not, if_true]
    cases (octetAt 1 datagram.data).testBit 7 with
    | false => rfl
    | true => rfl
  · have short : ¬ 13 ≤ datagram.data.length := long
    rw [control_short (Nat.lt_of_not_le long)]
    simp [controlChecks, short]

theorem client_eq_decided :
    client destination datagram =
      decided (clientChecks destination) ClientPacket.ofOctets datagram := by
  by_cases long : clientPacketSize ≤ datagram.data.length
  · have enough : 48 ≤ datagram.data.length := long
    simp only [client, ClientPacket.decodeAnswer, ClientPacket.decode_eq_ok.mpr ⟨long, rfl⟩,
      clientChecks, decided_cons, decided_nil, enough, decide_true, decide_eq_true_eq, if_true]
    by_cases mode : (ClientPacket.ofOctets datagram.data).mode = 4
    · simp [mode, (mode_ofOctets _).mp mode]
    · have other : ¬ octetAt 0 datagram.data % 8 = 4 := mt (mode_ofOctets _).mpr mode
      simp [mode, other, Nat.not_lt.mpr long]
  · have short : ¬ 48 ≤ datagram.data.length := long
    have few := Nat.lt_of_not_le long
    simp only [client, ClientPacket.decodeAnswer, ClientPacket.decode, if_pos few]
    simp [clientChecks, short]

/-- What is accepted meets all checks and was read from the octets. -/
theorem decided_eq_ok {α : Type} {checks : List Check} {read : Bytes → α} {packet : α} :
    decided checks read datagram = .ok packet ↔
      (∀ check ∈ checks, check.meets datagram = true) ∧ packet = read datagram.data := by
  rw [decided, ← Check.firstFailing_eq_none]
  cases Check.firstFailing checks datagram with
  | none => simp [eq_comm]
  | some reason => simp

end Correlator

/-- The decoders refuse a datagram for one reason, which the correlators know. -/
theorem ControlPacket.decode_cases (data : Bytes) :
    (∃ packet, decode data = .ok packet) ∨
      ∃ message, decode data = .error (.malformed message) := by
  rw [decode]
  split
  · exact .inr ⟨_, rfl⟩
  · exact .inl ⟨_, rfl⟩

theorem ClientPacket.decodeAnswer_cases (data : Bytes) :
    (∃ packet, decodeAnswer data = .ok packet) ∨
      ∃ message, decodeAnswer data = .error (.malformed message) := by
  rw [decodeAnswer, decode]
  split
  · rename_i refused
    split at refused
    · exact .inr ⟨_, congrArg Except.error (Except.error.inj refused).symm⟩
    · simp at refused
  · split
    · exact .inl ⟨_, rfl⟩
    · exact .inr ⟨_, rfl⟩

namespace Matcher

variable {α : Type}

@[simp] theorem verdict_offerAll (matcher : Matcher α) (datagrams : List Datagram) :
    (matcher.offerAll datagrams).verdict = matcher.verdict := by
  induction datagrams generalizing matcher with
  | nil => rfl
  | cons datagram datagrams ih => rw [offerAll_cons, ih, verdict_offer]

/-- A matcher decides by its checks, whatever it was offered before. -/
structure Exact (matcher : Matcher α) (checks : List Check) (size : Nat)
    (encode : α → Except Failure Bytes) : Prop where
  /-- A packet is given back for exactly those datagrams that meet all checks. -/
  accepts : ∀ before datagram,
    (∃ packet, ((matcher.offerAll before).offer datagram).1 = some packet) ↔
      ∀ check ∈ checks, check.meets datagram = true
  /-- The packet is written as the datagram came, up to the size of its format. -/
  repacks : ∀ before datagram packet,
    ((matcher.offerAll before).offer datagram).1 = some packet →
      encode packet = .ok (datagram.data.take size)
  /-- The reason that is remembered is that of the first check that failed. -/
  remembers : ∀ before datagram,
    (matcher.offerAll (before ++ [datagram])).lastReason = Check.firstFailing checks datagram
  /-- No reason is remembered exactly when the last datagram was accepted. -/
  clears : ∀ before datagram,
    (matcher.offerAll (before ++ [datagram])).lastReason = none ↔
      ∃ packet, ((matcher.offerAll before).offer datagram).1 = some packet

variable {matcher : Matcher α} {checks : List Check} {read : Bytes → α}

/-- One offer tells the verdict and leaves its reason behind. -/
theorem offer_of_decided
    (decides : ∀ datagram, matcher.verdict datagram = Correlator.decided checks read datagram)
    (before : List Datagram) (datagram : Datagram) :
    ((matcher.offerAll before).offer datagram).1 =
        (Correlator.decided checks read datagram).toOption ∧
      (matcher.offerAll (before ++ [datagram])).lastReason = Check.firstFailing checks datagram := by
  have last : matcher.offerAll (before ++ [datagram]) =
      ((matcher.offerAll before).offer datagram).2 := List.foldl_append
  rw [last, offer, verdict_offerAll, decides, Correlator.decided]
  cases Check.firstFailing checks datagram with
  | none => exact ⟨rfl, rfl⟩
  | some reason => exact ⟨rfl, rfl⟩

theorem exact_of_decided {size : Nat} {encode : α → Except Failure Bytes}
    (decides : ∀ datagram, matcher.verdict datagram = Correlator.decided checks read datagram)
    (written : ∀ datagram, (∀ check ∈ checks, check.meets datagram = true) →
      encode (read datagram.data) = .ok (datagram.data.take size)) :
    matcher.Exact checks size encode := by
  have taken : ∀ before datagram packet,
      ((matcher.offerAll before).offer datagram).1 = some packet ↔
        (∀ check ∈ checks, check.meets datagram = true) ∧ packet = read datagram.data := by
    intro before datagram packet
    rw [(offer_of_decided decides before datagram).1, ← Correlator.decided_eq_ok]
    cases Correlator.decided checks read datagram with
    | error reason => simp [Except.toOption]
    | ok decoded => simp [Except.toOption]
  have some_packet : ∀ before datagram,
      (∃ packet, ((matcher.offerAll before).offer datagram).1 = some packet) ↔
        ∀ check ∈ checks, check.meets datagram = true := by
    intro before datagram
    simp only [taken, exists_and_left, exists_eq, and_true]
  refine ⟨some_packet, ?_, ?_, ?_⟩
  · intro before datagram packet offered
    obtain ⟨meets, rfl⟩ := (taken before datagram packet).mp offered
    exact written datagram meets
  · intro before datagram
    exact (offer_of_decided decides before datagram).2
  · intro before datagram
    rw [(offer_of_decided decides before datagram).2, Check.firstFailing_eq_none, some_packet]

end Matcher

namespace Correlator

/-- The two correlators on the octets of a datagram. Each accepts what meets all of its checks, and
a matcher for either remembers the first check that the last datagram did not meet. -/
theorem correlation_exact (destination : Endpoint) (sequence : Int) :
    (Matcher.control destination sequence).Exact (controlChecks destination sequence)
        controlPacketSize ControlPacket.encode ∧
      (Matcher.client destination).Exact (clientChecks destination)
        clientPacketSize ClientPacket.encode ∧
      (∀ datagram, (∃ packet, control destination sequence datagram = .ok packet) ↔
        13 ≤ datagram.data.length ∧ (octetAt 1 datagram.data).testBit 7 = true ∧
          datagram.source = destination ∧
          (octetAt 2 datagram.data : Int) * 256 + octetAt 3 datagram.data = sequence) ∧
      (∀ datagram, (∃ packet, client destination datagram = .ok packet) ↔
        48 ≤ datagram.data.length ∧ octetAt 0 datagram.data % 8 = 4 ∧
          datagram.source.host = destination.host) ∧
      ((controlChecks destination sequence).map (·.reason.name) =
          ["short", "not-response", "wrong-source", "wrong-port", "wrong-sequence"] ∧
        (clientChecks destination).map (·.reason.name) =
          ["short", "not-server-mode", "wrong-source"]) ∧
      (∀ data, (∃ packet, ControlPacket.decode data = .ok packet) ∨
        ∃ message, ControlPacket.decode data = .error (.malformed message)) ∧
      ∀ data, (∃ packet, ClientPacket.decodeAnswer data = .ok packet) ∨
        ∃ message, ClientPacket.decodeAnswer data = .error (.malformed message) := by
  refine ⟨?_, ?_, ?_, ?_, ⟨rfl, rfl⟩, ControlPacket.decode_cases,
    ClientPacket.decodeAnswer_cases⟩
  · apply Matcher.exact_of_decided fun _ => control_eq_decided
    intro datagram meets
    have long : 13 ≤ datagram.data.length := by
      simpa using meets _ List.mem_cons_self
    exact ControlPacket.encode_ofOctets long
  · apply Matcher.exact_of_decided fun _ => client_eq_decided
    intro datagram meets
    have long : 48 ≤ datagram.data.length := by
      simpa using meets _ List.mem_cons_self
    exact ClientPacket.encode_ofOctets long
  · intro datagram
    simp only [control_eq_decided, decided_eq_ok, controlChecks, exists_and_left, exists_eq,
      and_true, List.forall_mem_cons, List.not_mem_nil, false_implies, implies_true,
      decide_eq_true_eq, Endpoint.ext_iff, and_assoc]
  · intro datagram
    simp only [client_eq_decided, decided_eq_ok, clientChecks, exists_and_left, exists_eq,
      and_true, List.forall_mem_cons, List.not_mem_nil, false_implies, implies_true,
      decide_eq_true_eq]

/-- Two datagrams are turned away, the one for its length and the other for its port. -/
example :
    let endpoint : Endpoint := ⟨"127.0.0.1", 123⟩
    let response : Bytes := [30, 130, 0, 7, 0, 0, 0, 0, 0, 0, 0, 1, 65]
    let matcher := (Matcher.control endpoint 7).offerAll
      [⟨response.take 12, endpoint⟩, ⟨response, ⟨"127.0.0.1", 124⟩⟩]
    matcher.lastReason = some .wrongPort ∧
      (matcher.offer ⟨response, endpoint⟩).2.lastReason = none := by
  decide +kernel

end Correlator

end NtpQuery
