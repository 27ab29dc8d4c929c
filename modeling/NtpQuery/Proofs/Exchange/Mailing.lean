import NtpQuery.Proofs.Exchange.Schedule

/-!
# What an exchange sends

Whatever happens to an exchange, all that it sends are its own requests, each
made for the second at which it leaves. Listening sends nothing, so an answer
that comes is told the second of the request that was sent last.
-/

namespace NtpQuery.Exchange

variable {α : Type} {exchange : Exchange α} {channel after : Channel}

/-- Between the two channels nothing was sent but requests of the exchange. -/
structure Mailed (exchange : Exchange α) (channel after : Channel) : Prop where
  requests : ∃ requests, after.network.sentRev = requests ++ channel.network.sentRev ∧
    ∀ one ∈ requests, ∃ attempt,
      one = exchange.requestAt channel.network.wallOffset attempt one.time
  wallOffset : after.network.wallOffset = channel.network.wallOffset

namespace Mailed

theorem refl (exchange : Exchange α) (channel : Channel) : exchange.Mailed channel channel :=
  ⟨⟨[], rfl, by simp⟩, rfl⟩

theorem trans {first second third : Channel} (h : exchange.Mailed first second)
    (h' : exchange.Mailed second third) : exchange.Mailed first third := by
  obtain ⟨earlier, sent, own⟩ := h.requests
  obtain ⟨later, sent', own'⟩ := h'.requests
  refine ⟨⟨later ++ earlier, ?_, ?_⟩, h'.wallOffset.trans h.wallOffset⟩
  · rw [sent', sent, List.append_assoc]
  · intro one mem
    rcases List.mem_append.mp mem with mem | mem
    · rw [← h.wallOffset]
      exact own' one mem
    · exact own one mem

theorem of_passive (passive : channel.Passive after) : exchange.Mailed channel after :=
  ⟨⟨[], passive.sentRev, by simp⟩, passive.wallOffset⟩

theorem carried (exchange : Exchange α) : exchange.Carried exchange.Mailed where
  refl := refl exchange
  trans := trans
  wait channel _ opened nonneg := of_passive (.wait channel opened nonneg)
  receive channel opened waiting := of_passive (.receive channel _ opened waiting)
  send channel attempt := by
    cases sending : channel.send (exchange.request attempt channel.network.wallSeconds)
        exchange.query.destination with
    | mk result after =>
      cases result with
      | error failure =>
        obtain ⟨refusal, -, dropped, -⟩ := Channel.send_error sending
        exact of_passive (.of_dropped dropped)
      | ok =>
        have off := Channel.send_ok sending
        refine ⟨⟨[_], off.sentRev, ?_⟩, off.wallOffset⟩
        intro one mem
        rw [List.mem_singleton.mp mem]
        exact ⟨attempt, rfl⟩

end Mailed

/-- Listening sends nothing. -/
theorem heeding_sentRev (exchange : Exchange α) :
    exchange.Heeding fun channel after => after.network.sentRev = channel.network.sentRev where
  trans h h' := h'.trans h
  wait channel _ opened nonneg := (Channel.Passive.wait channel opened nonneg).sentRev
  receive channel opened waiting := (Channel.Passive.receive channel _ opened waiting).sentRev

/-- The departure of an answer is that of the last request. -/
theorem departure_run {answer : Answer α} (outcome : (exchange.run channel).outcome = .ok answer) :
    ∃ last requests,
      (exchange.run channel).channel.network.sentRev =
        (last :: requests) ++ channel.network.sentRev ∧
      answer.sentAt = Network.wholeSeconds (last.time + channel.network.wallOffset) := by
  obtain @⟨asking, sent, attempt, before, -, off, sentAt, heard⟩ :=
    (Mailed.carried exchange).origin_of (heeding_sentRev exchange) outcome
  obtain @⟨ready, arrival, listening, rest, -, -, -, -, -⟩ := heard
  obtain ⟨requests, until_asking, -⟩ := before.requests
  refine ⟨⟨asking.clock, exchange.request attempt asking.network.wallSeconds,
    exchange.query.destination⟩, requests, ?_, ?_⟩
  · rw [rest, listening, off.sentRev, until_asking]
    rfl
  · rw [sentAt, Network.wallSeconds, Network.wallMs, before.wallOffset]
    rfl

end NtpQuery.Exchange
