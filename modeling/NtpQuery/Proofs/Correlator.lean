import NtpQuery.Correlator

/-!
# What is accepted

The checks of a correlator are made one after the other, and a datagram is
accepted when all of them pass. Which one turned a datagram away matters only
for the statistics; a datagram that is too short fails the first check, and a
response with another sequence number nothing but the last.
-/

namespace NtpQuery.Correlator

/-- A control response is accepted from the queried endpoint with the number of the request. -/
theorem control_eq_ok {destination : Endpoint} {sequence : Int} {datagram : Datagram}
    {packet : ControlPacket} :
    control destination sequence datagram = .ok packet ↔
      ControlPacket.decode datagram.data = .ok packet ∧ packet.isResponse = true ∧
        datagram.source = destination ∧ packet.sequence = sequence := by
  constructor
  · intro h
    rw [control] at h
    split at h
    · simp at h
    · rename_i decoded hd
      split at h
      · simp at h
      rename_i response
      split at h
      · simp at h
      rename_i host
      split at h
      · simp at h
      rename_i port
      split at h
      · simp at h
      rename_i number
      obtain rfl := Except.ok.inj h
      have source : datagram.source = destination :=
        Endpoint.ext (Decidable.not_not.mp host) (Decidable.not_not.mp port)
      exact ⟨hd, by simpa using response, source, Decidable.not_not.mp number⟩
  · rintro ⟨decoded, response, rfl, rfl⟩
    simp [control, decoded, response]

theorem control_short {destination : Endpoint} {sequence : Int} {datagram : Datagram}
    (short : datagram.data.length < Wire.controlMinSize) :
    control destination sequence datagram = .error .short := by
  simp only [control, ControlPacket.decode, if_pos short]

theorem control_wrongSequence {destination : Endpoint} {sequence : Int} {datagram : Datagram}
    {packet : ControlPacket} (decoded : ControlPacket.decode datagram.data = .ok packet)
    (response : packet.isResponse = true) (source : datagram.source = destination)
    (other : packet.sequence ≠ sequence) :
    control destination sequence datagram = .error .wrongSequence := by
  subst source
  simp [control, decoded, response, other]

/-- An answer to a client request is accepted from the queried address. -/
theorem client_eq_ok {destination : Endpoint} {datagram : Datagram} {packet : ClientPacket} :
    client destination datagram = .ok packet ↔
      ClientPacket.decodeAnswer datagram.data = .ok packet ∧
        datagram.source.host = destination.host := by
  constructor
  · intro h
    rw [client] at h
    split at h
    · split at h
      · simp at h
      · simp at h
    · rename_i decoded hd
      split at h
      · simp at h
      rename_i host
      obtain rfl := Except.ok.inj h
      exact ⟨hd, Decidable.not_not.mp host⟩
  · rintro ⟨decoded, host⟩
    simp [client, decoded, host]

end NtpQuery.Correlator
