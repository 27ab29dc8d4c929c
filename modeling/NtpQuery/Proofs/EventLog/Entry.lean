import NtpQuery.Proofs.Counter
import NtpQuery.Proofs.EventLog.Lines

/-!
# The record of an event

The record of an event tells its type and its kind, and of a datagram why it was
turned away or how long it took. Its members have different names. None of them
is a container but the result of a query, which has no containers in turn. So
the record can be read back whenever its numbers are short enough.
-/

namespace NtpQuery

namespace Json

/-- A value that is nothing, a text or a whole number. -/
def IsScalar (j : Json) : Prop :=
  j = .null ∨ (∃ s, j = .text s) ∨ ∃ n, j = .whole n

theorem IsScalar.plain {j : Json} (scalar : j.IsScalar)
    (short : ∀ n ∈ j.wholes, n.natAbs < 10 ^ Text.Numeral.maxDigits) (depth : Nat) :
    j.Plain depth := by
  rcases scalar with rfl | ⟨s, rfl⟩ | ⟨n, rfl⟩
  · exact .null
  · exact .text
  · exact .whole (short n (by simp [Json.whole, wholes]))

@[simp] theorem isScalar_text (s : String) : (Json.text s).IsScalar :=
  .inr (.inl ⟨s, rfl⟩)

@[simp] theorem isScalar_whole (n : Int) : (Json.whole n).IsScalar :=
  .inr (.inr ⟨n, rfl⟩)

@[simp] theorem isScalar_elim (n : Option Int) : (n.elim Json.null Json.whole).IsScalar := by
  cases n with
  | none => exact .inl rfl
  | some n => exact isScalar_whole n

theorem isWritable_iff {j : Json} :
    j.isWritable = true ↔ ∀ n ∈ j.wholes, n.natAbs < 10 ^ Text.Numeral.maxDigits := by
  simp [isWritable]

theorem mem_memberWholes {members : List (String × Json)} {member : String × Json}
    (mem : member ∈ members) {n : Int} (found : n ∈ member.2.wholes) :
    n ∈ memberWholes members := by
  induction members with
  | nil => simp at mem
  | cons other members ih =>
    rw [memberWholes, List.mem_append]
    rcases List.mem_cons.mp mem with rfl | mem
    · exact .inl found
    · exact .inr (ih mem)

theorem plain_object {members : List (String × Json)} (distinct : (Mapping.keys members).Nodup)
    (scalars : ∀ member ∈ members, member.2.IsScalar)
    (short : ∀ n ∈ memberWholes members, n.natAbs < 10 ^ Text.Numeral.maxDigits) (depth : Nat) :
    (Json.object members).Plain (depth + 1) := by
  refine .object distinct ?_
  intro member mem
  exact (scalars member mem).plain (fun n found => short n (mem_memberWholes mem found)) depth

@[simp] theorem same_text (s t : String) : same (.text s) (.text t) = decide (s = t) := by
  simp [same, sameScalar]

end Json

namespace Event

/-- The type of the record of an event. -/
def typeName : Event → String
  | query .. => "query"
  | sent .. => "sent"
  | received .. => "recv"
  | discarded .. => "discard"
  | attemptTimeout .. => "attempt_timeout"
  | exhausted .. => "exhausted"
  | failed .. => "failure"
  | peerFailed _ => "failure"
  | answered .. => "result"

theorem typeName_eq_discard_iff {event : Event} :
    event.typeName = "discard" ↔ event.reason?.isSome = true := by
  cases event <;> simp [typeName, reason?]

theorem typeName_eq_result_iff {event : Event} :
    event.typeName = "result" ↔ event.counter? = some .succeeded := by
  cases event with
  | failed kind error => cases silent : error.isNoResponse <;> simp [typeName, counter?, silent]
  | _ => simp [typeName, counter?]

theorem typeName_eq_exhausted_iff {event : Event} :
    event.typeName = "exhausted" ↔ event.isExhausted = true := by
  cases event <;> simp [typeName, isExhausted]

/-- The round-trip time that an event tells. -/
def roundTrip? : Event → Option Int
  | received _ _ _ roundTrip => some roundTrip
  | _ => none

/-- The whole numbers that an event tells beside times. -/
def numbers : Event → List Int
  | query _ destination retries timeoutMs => [destination.port, retries, timeoutMs]
  | sent _ attempt size sequence => attempt :: size :: sequence.toList
  | received _ _ size _ => [size]
  | attemptTimeout _ attempt => [attempt]
  | exhausted _ attempts => [attempts]
  | answered _ _ result => Json.memberWholes result
  | _ => []

/-- A result has a name for each value, and none of the values is a container. -/
def IsFlat : Event → Prop
  | answered _ _ result =>
    (Mapping.keys result).Nodup ∧ ∀ member ∈ result, member.2.IsScalar
  | _ => True

theorem OfExchange.isFlat {kind : String} {event : Event} (own : event.OfExchange kind) :
    event.IsFlat := by
  cases own <;> trivial

end Event

namespace EventLog

variable (event : TimedEvent)

@[simp] theorem member?_type :
    (entryOf event).member? "type" = some (.text event.event.typeName) := by
  obtain ⟨time, event⟩ := event
  cases event <;> rfl

@[simp] theorem member?_kind :
    (entryOf event).member? "kind" = some (.text event.event.kindName) := by
  obtain ⟨time, event⟩ := event
  cases event <;> rfl

theorem roundTrip?_entryOf :
    LogFiles.roundTrip? (entryOf event) = event.event.roundTrip?.map Json.whole := by
  obtain ⟨time, event⟩ := event
  cases event <;> rfl

/-- The whole numbers of a record are the time, the round-trip time and those of the event. -/
theorem mem_wholes_entryOf {n : Int} (mem : n ∈ (entryOf event).wholes) :
    n = event.time ∨ event.event.roundTrip? = some n ∨ n ∈ event.event.numbers := by
  obtain ⟨time, event⟩ := event
  cases event with
  | sent kind attempt size sequence =>
    cases sequence with
    | none => exact (List.mem_cons.mp mem).imp_right .inr
    | some sequence => exact (List.mem_cons.mp mem).imp_right .inr
  | received kind source size roundTrip =>
    have listed : n ∈ [time, size, roundTrip] := mem
    simp only [List.mem_cons, List.not_mem_nil, or_false] at listed
    rcases listed with rfl | rfl | rfl
    · exact .inl rfl
    · exact .inr (.inr (by simp [Event.numbers]))
    · exact .inr (.inl rfl)
  | answered kind roundTrip result =>
    have listed : n ∈ time :: (Json.memberWholes result ++ []) := mem
    rw [List.append_nil] at listed
    exact (List.mem_cons.mp listed).imp_right .inr
  | _ => exact (List.mem_cons.mp mem).imp_right .inr

theorem member?_reason {reason : String} (told : event.event.reason? = some reason) :
    (entryOf event).member? "reason" = some (.text reason) := by
  obtain ⟨time, event⟩ := event
  cases event with
  | discarded kind source other =>
    obtain rfl := Option.some.inj told
    rfl
  | _ => simp [Event.reason?] at told

variable {event}

/-- Type and time go before the data, which do not replace them. -/
theorem entry_eq {type : String} {time : Int} {data : Members}
    (distinct : ("type" :: "ts" :: Mapping.keys data).Nodup) :
    entry type time data = .object (("type", .text type) :: ("ts", .whole time) :: data) := by
  rw [entry, Mapping.putAll_eq_append]
  · rfl
  · exact distinct

theorem isRecord_entry {type : String} {time : Int} {data : Members}
    (distinct : ("type" :: "ts" :: Mapping.keys data).Nodup)
    (plain : ∀ member ∈ data, member.2.Plain (Json.maxDepth - 1))
    (short : ∀ n ∈ (entry type time data).wholes, n.natAbs < 10 ^ Text.Numeral.maxDigits) :
    (entry type time data).IsRecord := by
  rw [entry_eq distinct] at short ⊢
  refine ⟨.object distinct ?_, _, rfl⟩
  intro member mem
  rcases List.mem_cons.mp mem with rfl | mem
  · exact .text
  · rcases List.mem_cons.mp mem with rfl | mem
    · exact .whole (short time (by simp [Json.wholes, Json.memberWholes, Json.whole]))
    · exact plain member mem

/-- The record of an event can be read back when it can be written. -/
theorem isRecord_entryOf (flat : event.event.IsFlat)
    (writable : (entryOf event).isWritable = true) : (entryOf event).IsRecord := by
  have short := Json.isWritable_iff.mp writable
  have scalars : ∀ {type : String} {data : Members}, entryOf event = entry type event.time data →
      ("type" :: "ts" :: Mapping.keys data).Nodup → (∀ member ∈ data, member.2.IsScalar) →
      (entryOf event).IsRecord := by
    intro type data same distinct scalar
    rw [same] at short ⊢
    refine isRecord_entry distinct ?_ short
    intro member mem
    apply (scalar member mem).plain
    intro n found
    rw [entry_eq distinct] at short
    exact short n (Json.mem_memberWholes (by simp [mem]) found)
  obtain ⟨time, event⟩ := event
  cases event with
  | answered kind roundTrip result =>
    obtain ⟨distinct, scalar⟩ := flat
    have leading : ("type" :: "ts" ::
        Mapping.keys [("kind", Json.text kind), ("result", .object result)]).Nodup := by simp
    refine isRecord_entry leading ?_ short
    rw [show entryOf ⟨time, .answered kind roundTrip result⟩ = _ from entry_eq leading] at short
    simp only [List.mem_cons, List.not_mem_nil, or_false, forall_eq_or_imp, forall_eq]
    refine ⟨.text, Json.plain_object distinct scalar ?_ _⟩
    intro n found
    exact short n (@Json.mem_memberWholes _ ("result", .object result) (by simp) n found)
  | query => exact scalars rfl (by simp) (by simp)
  | sent => exact scalars rfl (by simp) (by simp)
  | received => exact scalars rfl (by simp) (by simp)
  | discarded => exact scalars rfl (by simp) (by simp)
  | attemptTimeout => exact scalars rfl (by simp) (by simp)
  | exhausted => exact scalars rfl (by simp) (by simp)
  | failed => exact scalars rfl (by simp) (by simp)
  | peerFailed => exact scalars rfl (by simp) (by simp)

/-- All records of a log can be written, so that they can be read back. -/
def IsLegible (log : EventLog) : Prop :=
  ∀ record ∈ log.records, record.isWritable = true

instance (log : EventLog) : Decidable log.IsLegible :=
  inferInstanceAs (Decidable (∀ record ∈ log.records, record.isWritable = true))

theorem isLegible_fresh (sessionId : String) (bufferSize : Option Int) (started : Int) :
    IsLegible { sessionId, bufferSize, started } := by
  simp [IsLegible, records]

end EventLog

end NtpQuery
