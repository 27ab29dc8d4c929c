import NtpQuery.Proofs.Client.Query
import NtpQuery.Proofs.Exchange.Round
import NtpQuery.Proofs.Session.Lifecycle

/-!
# Queries and the socket

A query does nothing to the session of its client but use it and take numbers
from it, so a run of queries is a run of these actions, one after the other.
What holds after every action of every run therefore holds at every moment of
every run of queries, however the queries end.
-/

namespace NtpQuery

namespace Channel

/-- The second channel is the first one after some uses and some new numbers. -/
def Operated (channel after : Channel) : Prop :=
  ∃ actions : List Action, (∀ action ∈ actions, action.uses ∨ action = .nextSequence) ∧
    after = channel.actAll actions

namespace Operated

theorem refl (channel : Channel) : channel.Operated channel :=
  ⟨[], by simp, rfl⟩

theorem trans {first second third : Channel} (h : first.Operated second)
    (h' : second.Operated third) : first.Operated third := by
  obtain ⟨actions, own, rfl⟩ := h
  obtain ⟨others, others_own, rfl⟩ := h'
  refine ⟨actions ++ others, ?_, (actAll_append _ _ _).symm⟩
  intro action mem
  rcases List.mem_append.mp mem with mem | mem
  · exact own action mem
  · exact others_own action mem

theorem act (channel : Channel) (action : Action) (own : action.uses ∨ action = .nextSequence) :
    channel.Operated (channel.act action).2 :=
  ⟨[action], by simpa using own, rfl⟩

end Operated

end Channel

theorem Exchange.operated {α : Type} (exchange : Exchange α) :
    exchange.Carried Channel.Operated where
  refl := .refl
  trans := .trans
  send channel _ := .act channel (.send _ _) (.inl rfl)
  wait channel ms _ _ := .act channel (.wait ms) (.inl rfl)
  receive channel _ _ := .act channel (.receive _) (.inl rfl)

namespace Client

theorem operated : Carried fun client after => client.channel.Operated after.channel where
  refl client := .refl client.channel
  trans := .trans
  observe client _ := .refl client.channel
  fetch client budget destination association := by
    obtain ⟨payload, -, fetched⟩ := client.fetchVariables_eq budget destination association
    rw [fetched]
    have numbered : client.channel.Operated client.numbered.channel :=
      .act client.channel .nextSequence (.inr rfl)
    exact numbered.trans ((Exchange.operated _).run client.numbered.channel)
  ask client budget destination :=
    (Exchange.operated (timeExchange budget destination)).run client.channel

end Client

/-- After every action of every run that starts with a closed session the only open socket is the
one of the session, and what the action did to it is in order. A datagram is received only from
the socket to which it was delivered. Queries in any number and order are such a run. -/
theorem Channel.socket_lifecycle {start : Channel} (closed : start.session.socket = none)
    (unopened : start.network.openSockets = [])
    (closing : refused start.network.faults.close = 0) :
    (∀ earlier action, (start.actAll earlier).Orderly action) ∧
      (∀ earlier size datagram,
        ((start.actAll earlier).act (.receive size)).1 = .ok (.received datagram) →
          start.Delivered earlier size datagram) ∧
      ∀ (client : Client) (calls : List Call), client.channel = start →
        ∃ actions : List Action, (∀ action ∈ actions, action.uses ∨ action = .nextSequence) ∧
          (client.performAll calls).2.channel = start.actAll actions := by
  have tidy : start.Tidy := ⟨by rw [unopened, closed]; rfl, by simp [closed], closing⟩
  refine ⟨fun earlier action => orderly (tidy_actAll tidy earlier) action,
    fun earlier size datagram => delivered_of_received tidy closed, ?_⟩
  rintro client calls rfl
  exact Client.operated.performAll client calls

/-- The first socket cannot be bound and the second one is lost while a datagram waits in its
inbox. What is received afterwards was delivered to the third. -/
theorem Channel.socket_lifecycle_replaced :
    let server : Endpoint := ⟨"10.0.0.1", 123⟩
    let start : Channel :=
      { session := {}
        network :=
          { script := [[⟨5, ⟨[1], server⟩⟩], [⟨5, ⟨[2], server⟩⟩]]
            faults := { bind := [some "in use"], send := [none, some "unreachable"] } } }
    let send : Action := .send [0] server
    let earlier := [send, send, send, send]
    (start.session.socket = none ∧ start.network.openSockets = [] ∧
        refused start.network.faults.close = 0) ∧
      ((start.actAll earlier).act (.receive 512)).1 = .ok (.received ⟨[2], server⟩) ∧
      (start.actAll earlier).network.openSockets = [2] ∧
      (start.actAll earlier).Orderly (.receive 512) ∧
      start.Delivered earlier 512 ⟨[2], server⟩ := by
  intro server start send earlier
  have received :
      ((start.actAll earlier).act (.receive 512)).1 = .ok (.received ⟨[2], server⟩) := rfl
  have lifecycle := @socket_lifecycle start rfl rfl rfl
  exact ⟨⟨rfl, rfl, rfl⟩, received, rfl, lifecycle.1 _ _, lifecycle.2.1 _ _ _ received⟩

end NtpQuery
