import NtpQuery.Proofs.Client.Query
import NtpQuery.Proofs.Exchange.Schedule
import NtpQuery.Proofs.Wire.Control

/-!
# How long queries take

A budget is shared evenly, and what does not go into the shares is less than a
millisecond for each of them. So an exchange that gets no answer gives up when
its timeout is over, up to that rest, and a query takes no longer than the
timeouts of its exchanges together. Interruptions do not change this as long as
each is in time. A refused wait makes everything that follows it earlier.
-/

namespace NtpQuery

/-- The shares of all attempts are the timeout, up to less than a millisecond for each. -/
theorem Budget.attempts_mul_attemptMs (budget : Budget) :
    budget.attempts * budget.attemptMs ≤ budget.timeoutMs ∧
      budget.timeoutMs < budget.attempts * budget.attemptMs + budget.attempts :=
  ⟨Nat.mul_div_le _ _, Nat.lt_mul_div_succ _ (Nat.succ_pos _)⟩

/-- What happens between two points of time takes no longer than the given time, when all
interruptions are in time. -/
structure Channel.Brief (channel after : Channel) (ms : Int) (timeouts : List Int)
    (sent : List SentDatagram) : Prop where
  waits : channel.network.Waits after.network timeouts
  record : after.network.sentRev = sent.reverse ++ channel.network.sentRev
  onlyWaits : after.network.OnlyWaits
  brief : InTime channel.network.faults.wait timeouts → after.clock ≤ channel.clock + ms

namespace Channel.Brief

theorem refl {channel : Channel} {ms : Int} (onlyWaits : channel.network.OnlyWaits)
    (nonneg : 0 ≤ ms) : channel.Brief channel ms [] [] :=
  ⟨.refl _, rfl, onlyWaits, fun _ => by omega⟩

theorem trans {first second third : Channel} {ms ms' : Int} {timeouts later : List Int}
    {sent others : List SentDatagram} (h : first.Brief second ms timeouts sent)
    (h' : second.Brief third ms' later others) :
    first.Brief third (ms + ms') (timeouts ++ later) (sent ++ others) := by
  refine ⟨h.waits.trans h'.waits, ?_, h'.onlyWaits, ?_⟩
  · rw [h'.record, h.record, List.reverse_append, List.append_assoc]
  · intro inTime
    obtain ⟨early, rest⟩ := inTime_append.mp inTime
    rw [← h.waits.faults] at rest
    have := h.brief early
    have := h'.brief rest
    omega

end Channel.Brief

namespace Exchange

variable {α : Type} {exchange : Exchange α} {channel : Channel} {run : Run α}
  {timeouts : List Int} {sent : List SentDatagram}

/-- The last of some requests leaves before the share of the last attempt. -/
theorem OnTime.last_le {attempts left : Nat} {lost : Int} {last : SentDatagram}
    (onTime : exchange.OnTime channel attempts left lost sent run)
    (newest : sent.getLast? = some last) :
    last.time + exchange.attemptMs ≤ channel.clock + sent.length * exchange.attemptMs := by
  rw [List.getLast?_eq_getElem?] at newest
  have nonempty : sent ≠ [] := by
    rintro rfl
    simp at newest
  have positive := List.length_pos_iff.mpr nonempty
  have departed := (onTime.departures _ _ newest).2
  have whole : (sent.length : Int) * exchange.attemptMs =
      (sent.length - 1 : Nat) * exchange.attemptMs + exchange.attemptMs := by
    have split : (sent.length : Int) = (sent.length - 1 : Nat) + 1 := by omega
    rw [split, Int.add_mul, Int.one_mul]
  omega

/-- An exchange is over within the shares of its attempts. -/
theorem OnTime.clock_le {attempts left : Nat} {lost : Int}
    (onTime : exchange.OnTime channel attempts left lost sent run) (nonneg : 0 ≤ lost) :
    run.channel.clock ≤ channel.clock + left * exchange.attemptMs := by
  have outcome := onTime.outcome
  cases ended : run.outcome with
  | error failure =>
    rw [ended] at outcome
    obtain ⟨-, -, clock⟩ := outcome
    omega
  | ok answer =>
    rw [ended] at outcome
    obtain ⟨-, few, last, newest, -, -, roundTrip, -, upper⟩ := outcome
    have departed := onTime.last_le newest
    have shares : (sent.length : Int) * exchange.attemptMs ≤ left * exchange.attemptMs :=
      Int.mul_le_mul_of_nonneg_right (Int.ofNat_le.mpr few) (Int.natCast_nonneg _)
    omega

theorem shares_le (exchange : Exchange α) :
    (exchange.query.budget.attempts : Int) * exchange.attemptMs ≤
        exchange.query.budget.timeoutMs ∧
      (exchange.query.budget.timeoutMs : Int) <
        exchange.query.budget.attempts * exchange.attemptMs + exchange.query.budget.attempts := by
  obtain ⟨upper, lower⟩ := exchange.query.budget.attempts_mul_attemptMs
  exact ⟨Int.ofNat_le.mpr upper, Int.ofNat_lt.mpr lower⟩

theorem Paced.brief
    (paced : exchange.Paced channel 0 exchange.query.budget.attempts run timeouts sent) :
    channel.Brief run.channel exchange.query.budget.timeoutMs timeouts sent := by
  refine ⟨paced.waits, paced.record, paced.onlyWaits, ?_⟩
  intro inTime
  have clock := (paced.onTime inTime).clock_le (forgone_nonneg _ paced.waits.nonneg)
  have := exchange.shares_le.1
  omega

/-- An exchange begins with its first request. -/
theorem Paced.asks
    (paced : exchange.Paced channel 0 exchange.query.budget.attempts run timeouts sent)
    (inTime : InTime channel.network.faults.wait timeouts) :
    ∃ first later, sent = first :: later ∧ first.time = channel.clock := by
  cases sent with
  | cons first later => exact ⟨first, later, rfl, paced.first first rfl⟩
  | nil =>
    have outcome := (paced.onTime inTime).outcome
    cases ended : run.outcome with
    | error failure =>
      rw [ended] at outcome
      exact absurd outcome.2.1.symm (Nat.succ_ne_zero _)
    | ok answer =>
      rw [ended] at outcome
      obtain ⟨-, -, last, newest, -⟩ := outcome
      simp at newest

/-- The times of an exchange from its start to its end. -/
structure Scheduled (exchange : Exchange α) (start : Channel) (run : Run α) : Prop where
  ended : (∃ answer, run.outcome = .ok answer) ∨ run.outcome = .error (.reported .unanswered)
  /-- The requests in the order in which they were sent. -/
  sent : ∃ sent : List SentDatagram,
    run.channel.network.sentRev = sent.reverse ++ start.network.sentRev ∧
    ∀ (k : Nat) one, sent[k]? = some one →
      one.time ≤ start.clock + k * exchange.attemptMs ∧
        (start.network.Patient run.channel.network →
          one.time = start.clock + k * exchange.attemptMs)
  answered : ∀ answer, run.outcome = .ok answer →
    0 ≤ answer.roundTrip ∧ answer.roundTrip ≤ exchange.attemptMs
  unanswered : run.outcome = .error (.reported .unanswered) →
    run.channel.clock ≤ start.clock + (exchange.query.budget.retries + 1) * exchange.attemptMs ∧
      run.channel.clock ≤ start.clock + exchange.query.budget.timeoutMs ∧
      (start.network.Patient run.channel.network →
        run.channel.clock =
            start.clock + (exchange.query.budget.retries + 1) * exchange.attemptMs ∧
          start.clock + exchange.query.budget.timeoutMs - (exchange.query.budget.retries + 1) <
            run.channel.clock)

theorem scheduled_run (exchange : Exchange α) (channel : Channel)
    (exact : exchange.query.budget.timeoutMs < Network.exactWaitMs)
    (onlyWaits : channel.network.OnlyWaits)
    (punctual : channel.network.Punctual (exchange.run channel).channel.network) :
    exchange.Scheduled channel (exchange.run channel) := by
  obtain ⟨timeouts, sent, paced⟩ := paced_run exchange channel onlyWaits exact
  obtain ⟨departures, outcome⟩ := paced.onTime (paced.waits.inTime punctual)
  have lost := forgone_nonneg channel.network.faults.wait paced.waits.nonneg
  have patient : channel.network.Patient (exchange.run channel).channel.network →
      forgone channel.network.faults.wait timeouts = 0 :=
    fun patient => forgone_eq_zero (paced.waits.unrefused patient)
  obtain ⟨upper, lower⟩ := exchange.shares_le
  have count : (exchange.query.budget.attempts : Int) = exchange.query.budget.retries + 1 := rfl
  rw [count] at upper lower
  refine ⟨?_, ⟨sent, paced.record, ?_⟩, ?_, ?_⟩
  · cases ended : (exchange.run channel).outcome with
    | ok answer => exact .inl ⟨answer, rfl⟩
    | error failure =>
      rw [ended] at outcome
      exact .inr (congrArg Except.error outcome.1)
  · intro k one here
    obtain ⟨early, late⟩ := departures k one here
    refine ⟨late, ?_⟩
    intro unrefused
    have := patient unrefused
    omega
  · intro answer ended
    rw [ended] at outcome
    obtain ⟨-, -, last, -, -, -, -, within⟩ := outcome
    exact within
  · intro ended
    rw [ended] at outcome
    obtain ⟨-, -, clock⟩ := outcome
    rw [count] at clock
    refine ⟨by omega, by omega, ?_⟩
    intro unrefused
    have := patient unrefused
    constructor
    · omega
    · omega

end Exchange

namespace Client

variable {client : Client} {budget : Budget} {destination : Endpoint}

/-- Reading variables takes no longer than the timeout. -/
theorem brief_fetchVariables (onlyWaits : client.network.OnlyWaits)
    (exact : budget.timeoutMs < Network.exactWaitMs) (destination : Endpoint)
    (association : Int) :
    ∃ timeouts sent,
      client.channel.Brief (client.fetchVariables budget destination association).2.channel
        budget.timeoutMs timeouts sent ∧
      (InTime client.network.faults.wait timeouts →
        ∃ first later, sent = first :: later ∧ first.time = client.now) := by
  obtain ⟨payload, -, run⟩ := client.fetchVariables_eq budget destination association
  rw [run]
  -- Taking a number leaves the network as it is.
  have numbered : client.numbered.channel.network.OnlyWaits := onlyWaits
  obtain ⟨timeouts, sent, paced⟩ := Exchange.paced_run (variablesExchange budget destination
    association client.numbered.channel.session.sequence payload) client.numbered.channel numbered
    exact
  obtain ⟨waits, record, last, brief⟩ := paced.brief
  exact ⟨timeouts, sent, ⟨waits, record, last, brief⟩, paced.asks⟩

theorem brief_fetchPeer (onlyWaits : client.network.OnlyWaits)
    (exact : budget.timeoutMs < Network.exactWaitMs) (destination : Endpoint) (text : String) :
    ∃ timeouts sent,
      client.channel.Brief (client.fetchPeer budget destination text).2.channel budget.timeoutMs
        timeouts sent := by
  have followUp := followUp_fetchPeer client budget destination text
  generalize client.fetchPeer budget destination text = result at followUp ⊢
  have nothing := Channel.Brief.refl onlyWaits (Int.natCast_nonneg budget.timeoutMs)
  have fetch := brief_fetchVariables onlyWaits exact destination
  cases followUp with
  | unreadable => exact ⟨[], [], nothing⟩
  | needless => exact ⟨[], [], nothing⟩
  | @answered association _ _ _ fetched =>
    obtain ⟨timeouts, sent, brief, -⟩ := fetch association
    rw [fetched] at brief
    exact ⟨timeouts, sent, brief⟩
  | @unanswered association _ _ _ fetched =>
    obtain ⟨timeouts, sent, brief, -⟩ := fetch association
    rw [fetched] at brief
    exact ⟨timeouts, sent, brief⟩
  | @failed association _ _ _ fetched =>
    obtain ⟨timeouts, sent, brief, -⟩ := fetch association
    rw [fetched] at brief
    exact ⟨timeouts, sent, brief⟩

/-- A query begins with its first request and takes no longer than the given time. -/
def Takes (client after : Client) (ms : Int) : Prop :=
  ∃ first later, after.network.sentRev = (first :: later).reverse ++ client.network.sentRev ∧
    first.time = client.now ∧ after.now ≤ first.time + ms

theorem takes_of_brief {after : Client} {ms : Int} {timeouts : List Int}
    {sent : List SentDatagram} (brief : client.channel.Brief after.channel ms timeouts sent)
    (punctual : client.network.Punctual after.network)
    (asks : InTime client.network.faults.wait timeouts →
      ∃ first later, sent = first :: later ∧ first.time = client.now) :
    client.Takes after ms := by
  have inTime := brief.waits.inTime punctual
  obtain ⟨first, later, rfl, now⟩ := asks inTime
  refine ⟨first, later, brief.record, now, ?_⟩
  rw [now]
  exact brief.brief inTime

theorem queryTime_takes {request : Request}
    (accepted : client.accept request = .ok (budget, destination))
    (exact : budget.timeoutMs < Network.exactWaitMs) (onlyWaits : client.network.OnlyWaits)
    (punctual : client.network.Punctual (client.queryTime request).2.network) :
    client.Takes (client.queryTime request).2 budget.timeoutMs := by
  obtain ⟨timeouts, sent, paced⟩ :=
    Exchange.paced_run (timeExchange budget destination) client.channel onlyWaits exact
  have brief := paced.brief
  have same : (client.queryTime request).2.channel =
      ((timeExchange budget destination).run client.channel).channel := by
    have course := timeCourse_queryTime client request
    generalize client.queryTime request = result at course ⊢
    cases course with
    | refused refusal => simp [accepted] at refusal
    | unanswered accepted' =>
      obtain ⟨rfl, rfl⟩ := Prod.mk.inj (Except.ok.inj (accepted.symm.trans accepted'))
      exact channel_fail _ _ _
    | uncomputed accepted' =>
      obtain ⟨rfl, rfl⟩ := Prod.mk.inj (Except.ok.inj (accepted.symm.trans accepted'))
      rfl
    | answered accepted' =>
      obtain ⟨rfl, rfl⟩ := Prod.mk.inj (Except.ok.inj (accepted.symm.trans accepted'))
      rfl
  rw [← same] at brief
  exact takes_of_brief brief punctual paced.asks

theorem queryStatus_takes {request : Request}
    (accepted : client.accept request = .ok (budget, destination))
    (exact : budget.timeoutMs < Network.exactWaitMs) (onlyWaits : client.network.OnlyWaits)
    (punctual : client.network.Punctual (client.queryStatus request).2.network) :
    client.Takes (client.queryStatus request).2 (2 * budget.timeoutMs) := by
  have started : (client.start .status budget destination).network.OnlyWaits := onlyWaits
  obtain ⟨timeouts, sent, brief, asks⟩ := brief_fetchVariables started exact destination 0
  have course := statusCourse_queryStatus client request
  generalize client.queryStatus request = result at course punctual ⊢
  -- A follow-up adds to what the first exchange sent and to the time that it took.
  have extended {after : Client} {later : List Int} {others : List SentDatagram}
      (whole : client.channel.Brief after.channel (budget.timeoutMs + budget.timeoutMs)
        (timeouts ++ later) (sent ++ others))
      (punctual : client.network.Punctual after.network) :
      client.Takes after (2 * budget.timeoutMs) := by
    have double : (2 : Int) * budget.timeoutMs = budget.timeoutMs + budget.timeoutMs := by omega
    rw [double]
    apply takes_of_brief whole punctual
    intro inTime
    obtain ⟨first, rest, rfl, now⟩ := asks (inTime_append.mp inTime).1
    exact ⟨first, rest ++ others, rfl, now⟩
  cases course with
  | refused refusal => simp [accepted] at refusal
  | @unanswered _ _ _ next accepted' fetched =>
    obtain ⟨rfl, rfl⟩ := Prod.mk.inj (Except.ok.inj (accepted.symm.trans accepted'))
    rw [fetched] at brief
    have none := Channel.Brief.refl brief.onlyWaits (Int.natCast_nonneg budget.timeoutMs)
    refine @extended (next.fail .status _) [] [] ?_ punctual
    rw [channel_fail]
    exact brief.trans none
  | @unfinished _ _ answer _ next last accepted' fetched followed =>
    obtain ⟨rfl, rfl⟩ := Prod.mk.inj (Except.ok.inj (accepted.symm.trans accepted'))
    rw [fetched] at brief
    obtain ⟨later, others, more⟩ :=
      brief_fetchPeer brief.onlyWaits exact destination answer.packet.text
    rw [followed] at more
    exact extended (brief.trans more) punctual
  | @answered _ _ answer _ next last accepted' fetched followed =>
    obtain ⟨rfl, rfl⟩ := Prod.mk.inj (Except.ok.inj (accepted.symm.trans accepted'))
    rw [fetched] at brief
    obtain ⟨later, others, more⟩ :=
      brief_fetchPeer brief.onlyWaits exact destination answer.packet.text
    rw [followed] at more
    exact extended (brief.trans more) punctual

/-- Where only waits are refused or interrupted and each interruption is in time, the requests of
an exchange leave one share of its timeout after the other, an answer comes within the share of
its request, and without one the exchange gives up when the shares are over. A refused wait makes
what follows earlier. So a time query takes no longer than its timeout, and a status query no
longer than twice its timeout. -/
theorem queries_on_schedule :
    (∀ {α : Type} (exchange : Exchange α) (channel : Channel),
      exchange.query.budget.timeoutMs < Network.exactWaitMs → channel.network.OnlyWaits →
      channel.network.Punctual (exchange.run channel).channel.network →
      exchange.Scheduled channel (exchange.run channel)) ∧
    ∀ (client : Client) (request : Request) (budget : Budget) (destination : Endpoint),
      client.accept request = .ok (budget, destination) →
      budget.timeoutMs < Network.exactWaitMs → client.network.OnlyWaits →
      (client.network.Punctual (client.queryTime request).2.network →
        client.Takes (client.queryTime request).2 budget.timeoutMs) ∧
      (client.network.Punctual (client.queryStatus request).2.network →
        client.Takes (client.queryStatus request).2 (2 * budget.timeoutMs)) := by
  constructor
  · intro α exchange channel exact onlyWaits punctual
    exact exchange.scheduled_run channel exact onlyWaits punctual
  · intro client request budget destination accepted exact onlyWaits
    constructor
    · intro punctual
      exact queryTime_takes accepted exact onlyWaits punctual
    · intro punctual
      exact queryStatus_takes accepted exact onlyWaits punctual

/-- A datagram that is turned away between two interruptions, and one that is turned away just at
the deadline of the second attempt. -/
theorem queries_on_schedule_interrupted :
    let server : Endpoint := ⟨"10.0.0.1", 123⟩
    let client := Client.onNetwork
      { clock := 5
        script := [[⟨3, ⟨[9], server⟩⟩], [⟨10, ⟨[9], server⟩⟩]]
        faults := { wait := [some (.interrupted 2), none, some (.interrupted 4)] } } none
    let request : Request := { host := "10.0.0.1", retries := some 1, timeoutMs := some 21 }
    let exchange := timeExchange ⟨1, 21, by decide⟩ server
    let run := exchange.run client.channel
    client.network.OnlyWaits ∧ client.network.Punctual run.channel.network ∧
      client.network.Patient run.channel.network ∧ run.channel.clock = 25 ∧
      exchange.Scheduled client.channel run ∧ client.Takes (client.queryTime request).2 21 ∧
      client.Takes (client.queryStatus request).2 (2 * 21) := by
  intro server client request exchange run
  have onlyWaits : client.network.OnlyWaits := fun kind => by cases kind <;> rfl
  have accepted : client.accept request = .ok (⟨1, 21, by decide⟩, server) := by
    have found : client.network.lookup request.host = some ["10.0.0.1"] := by decide +kernel
    exact accept_of_lookup rfl found (by decide)
  have record : run.channel.network.waitsRev = [10, 8, 7, 3, 10].reverse ++ [] := by
    decide +kernel
  have inTime : InTime client.network.faults.wait [10, 8, 7, 3, 10] := by
    intro call mem ms interrupted
    have listed : call ∈ [(some (.interrupted 2), 10), (none, 8), (some (.interrupted 4), 7)] := mem
    simp only [List.mem_cons, List.not_mem_nil, or_false] at listed
    rcases listed with rfl | rfl | rfl
    all_goals
      simp at interrupted
    · omega
    · omega
  have unrefused : Unrefused client.network.faults.wait [10, 8, 7, 3, 10] := by
    intro call mem
    have listed : call ∈ [(some (.interrupted 2), 10), (none, 8), (some (.interrupted 4), 7)] := mem
    simp only [List.mem_cons, List.not_mem_nil, or_false] at listed
    rcases listed with rfl | rfl | rfl
    all_goals simp
  have punctual : client.network.Punctual run.channel.network := ⟨_, record, inTime⟩
  have asked := queries_on_schedule.2 client request _ server accepted (by decide) onlyWaits
  refine ⟨onlyWaits, punctual, ⟨_, record, unrefused⟩, by decide +kernel, ?_, ?_, ?_⟩
  · exact queries_on_schedule.1 exchange client.channel (by decide) onlyWaits punctual
  · exact asked.1 ⟨_, by decide +kernel, inTime⟩
  · exact asked.2 ⟨_, by decide +kernel, inTime⟩

end Client

end NtpQuery
