import NtpQuery.Proofs.Exchange.Ledger
import NtpQuery.Proofs.Exchange.Noninterference
import NtpQuery.Proofs.Responder

/-!
# Alone with a responder

An exchange on a network on which nothing else is going on, with a responder
whose replies to a request depend on nothing but the seconds in which it leaves
and comes. The responder ignores requests until it has seen as many as it was
set to ignore. The attempts before that run out, and the next one is answered
after the time of both ways, when this is less than the time of an attempt. A
responder that has no reply leaves all attempts unanswered.

`Channel.Alone` is what holds between exchanges. The responder has then seen
every request that was sent, and no datagram is left over, so that the next
exchange can be treated in the same way.
-/

namespace NtpQuery

/-- How many requests a responder ignores that has seen some. -/
def Station.ignores (station : Station) (seen : Nat) : Nat :=
  (station.config.dropFirst - seen).toNat

theorem Station.ignores_add (station : Station) (seen n : Nat) :
    station.ignores (seen + n) = station.ignores seen - n := by
  simp only [Station.ignores]
  omega

/-- Replies to a request that was sent at a given time, as they arrive. -/
def Station.arrivals (station : Station) (replies : List Bytes) (sent : Int) : List Arrival :=
  replies.map fun reply => ⟨sent + station.upMs + station.downMs, ⟨reply, station.endpoint⟩⟩

theorem Station.arrivals_append (station : Station) (front back : List Bytes) (sent : Int) :
    station.arrivals (front ++ back) sent =
      station.arrivals front sent ++ station.arrivals back sent :=
  List.map_append

/-- Nothing is on its way, and the responder has seen the given number of datagrams. -/
structure Network.Tended (net : Network) (station : Station) (seen : Nat) : Prop where
  script : net.script = []
  here : ∃ stats, net.station = some { station with stats } ∧ stats.seen = seen

/-- A channel on which nothing comes but what a responder replies. -/
structure Channel.Alone (channel : Channel) (station : Station) (seen : Nat) : Prop where
  quiet : channel.network.Quiet
  tended : channel.network.Tended station seen
  empty : channel.session.inbox = []

namespace Exchange

variable {α : Type} {exchange : Exchange α} {start channel after : Channel} {station : Station}
  {seen : Nat} {replies : Int → Int → List Bytes}

/-- A responder that makes known replies to a request of an exchange, given the second in which it
leaves and, by the clock of the sender, the one in which it comes. -/
structure Serves (exchange : Exchange α) (station : Station) (replies : Int → Int → List Bytes) :
    Prop where
  alive : station.alive = true
  asked : station.endpoint = exchange.query.destination
  up : 0 ≤ station.upMs
  down : 0 ≤ station.downMs
  makes : ∀ attempt now later, Responder.replies station.config later
    ((exchange.request attempt now).take Wire.controlPacketSize) = .ok (replies now later)
  /-- The replies are received uncut. -/
  whole : ∀ now later, ∀ reply ∈ replies now later,
    (⟨reply, station.endpoint⟩ : Datagram).cut exchange.receiveSize = ⟨reply, station.endpoint⟩

/-- The replies to a request that leaves at the given time. -/
def repliesAt (station : Station) (replies : Int → Int → List Bytes) (wallOffset time : Int) :
    List Bytes :=
  replies (Network.wholeSeconds (time + wallOffset))
    (Network.wholeSeconds (time + wallOffset + station.upMs))

/-- When the first request leaves that a responder does not ignore. -/
def heededAt (exchange : Exchange α) (start : Channel) (station : Station) (seen : Nat) : Int :=
  start.clock + station.ignores seen * exchange.attemptMs

/-- What a request brings in. -/
theorem Serves.bring (serves : exchange.Serves station replies) {net : Network}
    (tended : net.Tended station seen) (attempt : Nat) :
    (net.bring (exchange.request attempt net.wallSeconds) exchange.query.destination).1 =
        (if 0 < station.ignores seen then []
          else station.arrivals (repliesAt station replies net.wallOffset net.clock) net.clock) ∧
      (net.bring (exchange.request attempt net.wallSeconds)
        exchange.query.destination).2.Tended station (seen + 1) := by
  obtain ⟨script, stats, here, rfl⟩ := tended
  obtain ⟨next, count, handled⟩ := Responder.handle_spec stats
    (serves.makes attempt net.wallSeconds (Network.wholeSeconds (net.wallMs + station.upMs)))
  have ignores : (0 < station.ignores stats.seen) ↔
      (stats.seen : Int) < station.config.dropFirst := by
    simp only [Station.ignores]
    omega
  have asks : (station.alive && decide (station.endpoint = exchange.query.destination)) = true := by
    simp [serves.alive, serves.asked]
  simp only [Network.bring, Network.scripted, script, Network.responded, here, asks, if_true,
    handled, ignores, List.nil_append]
  refine ⟨?_, rfl, next, rfl, count⟩
  split
  · rfl
  · rfl

/-- As many attempts as the responder ignores deliver nothing. -/
theorem Serves.sendings (serves : exchange.Serves station replies)
    (alone : start.Alone station seen) (n : Nat) :
    (exchange.sendings start n).2.Tended station (seen + n) ∧
      (n ≤ station.ignores seen → exchange.delivered start n = []) := by
  induction n with
  | zero => exact ⟨alone.tended, fun _ => alone.empty⟩
  | succ n ih =>
    obtain ⟨tended, none⟩ := ih
    obtain ⟨brought, next⟩ := serves.bring tended (n + 1)
    refine ⟨⟨next.script, next.here⟩, ?_⟩
    intro few
    have ignored : 0 < station.ignores (seen + n) := by
      rw [Station.ignores_add]
      omega
    have before := none (Nat.le_of_succ_le few)
    simp only [Exchange.delivered] at before
    simp only [Exchange.delivered, Exchange.sendings, brought, if_pos ignored, before]
    rfl

theorem Serves.causal (serves : exchange.Serves station replies)
    (alone : start.Alone station seen) : start.network.Causal := by
  obtain ⟨stats, here, -⟩ := alone.tended.here
  constructor
  · simp [alone.tended.script]
  · intro other same
    obtain rfl := Option.some.inj (here.symm.trans same)
    have := serves.up
    have := serves.down
    simp only
    omega

theorem Serves.faultless (serves : exchange.Serves station replies)
    (alone : start.Alone station seen) : start.Faultless := by
  refine ⟨alone.quiet, serves.causal alone, ?_⟩
  rw [alone.empty]
  exact .nil

/-- The attempt after them delivers the replies. -/
theorem Serves.delivered (serves : exchange.Serves station replies)
    (alone : start.Alone station seen) :
    exchange.delivered start (station.ignores seen + 1) =
      station.arrivals
        (repliesAt station replies start.network.wallOffset
          (exchange.heededAt start station seen))
        (exchange.heededAt start station seen) := by
  obtain ⟨tended, none⟩ := serves.sendings alone (station.ignores seen)
  obtain ⟨clock, offset, -⟩ :=
    sendings_spec exchange start (serves.causal alone) (station.ignores seen)
  obtain ⟨brought, -⟩ := serves.bring tended (station.ignores seen + 1)
  have heeded : ¬ 0 < station.ignores (seen + station.ignores seen) := by
    rw [Station.ignores_add]
    omega
  have before := none (Nat.le_refl _)
  simp only [Exchange.delivered] at before
  simp only [Exchange.delivered, Exchange.sendings, brought, if_neg heeded, before, clock, offset]
  apply Inbox.enqueueAll_of_ordered
  rw [Inbox.Ordered, Station.arrivals, List.pairwise_map]
  exact List.pairwise_of_forall fun _ _ => Int.le_refl _

/-- A responder without a reply delivers nothing at all. -/
theorem Serves.delivered_nil (serves : exchange.Serves station fun _ _ => [])
    (alone : start.Alone station seen) (n : Nat) : exchange.delivered start n = [] := by
  induction n with
  | zero => exact alone.empty
  | succ n ih =>
    obtain ⟨tended, -⟩ := serves.sendings alone n
    obtain ⟨brought, -⟩ := serves.bring tended (n + 1)
    simp only [Exchange.delivered] at ih
    simp only [Exchange.delivered, Exchange.sendings, brought, Station.arrivals, repliesAt,
      List.map_nil, ite_self, ih]
    rfl

/-- The responder sees every datagram that is sent. -/
def Counted (station : Station) (channel after : Channel) : Prop :=
  ∀ seen, channel.network.Tended station seen →
    ∃ sent, after.network.sentRev = sent ++ channel.network.sentRev ∧
      after.network.Tended station (seen + sent.length)

theorem counted_of_passive (passive : channel.Passive after) : Counted station channel after := by
  intro seen tended
  refine ⟨[], passive.sentRev, passive.script.trans tended.script, ?_⟩
  rw [passive.station]
  exact tended.here

theorem Serves.carried (serves : exchange.Serves station replies) :
    exchange.Carried (Counted station) where
  refl channel seen tended := ⟨[], rfl, tended⟩
  trans h h' seen tended := by
    obtain ⟨sent, record, tended'⟩ := h seen tended
    obtain ⟨others, record', tended''⟩ := h' _ tended'
    refine ⟨others ++ sent, ?_, ?_⟩
    · rw [record', record, List.append_assoc]
    · rw [List.length_append, Nat.add_comm others.length, ← Nat.add_assoc]
      exact tended''
  send channel attempt := by
    cases sending : channel.send (exchange.request attempt channel.network.wallSeconds)
        exchange.query.destination with
    | mk result after =>
      cases result with
      | error failure =>
        obtain ⟨refusal, -, dropped, -⟩ := Channel.send_error sending
        exact counted_of_passive (.of_dropped dropped)
      | ok =>
        intro seen tended
        have off := Channel.send_ok sending
        obtain ⟨-, -, next⟩ := serves.bring tended attempt
        refine ⟨[_], off.sentRev, ?_, ?_⟩
        · rw [off.script, tended.script]
          rfl
        · rw [off.station]
          exact next
  wait channel ms opened nonneg := counted_of_passive (.wait channel opened nonneg)
  receive channel opened waiting := counted_of_passive (.receive channel _ opened waiting)

/-- What an exchange alone with a responder leaves behind. -/
structure Passed (start : Channel) (station : Station) (seen : Nat) (after : Channel)
    (requests : Nat) (got : List Datagram) : Prop extends
    after.Alone station (seen + requests) where
  sentRev : ∃ sent, after.network.sentRev = sent ++ start.network.sentRev ∧ sent.length = requests
  receivedRev : after.network.receivedRev = got.reverse ++ start.network.receivedRev

theorem Serves.passed {requests : Nat} {got : List Datagram} {run : Run α}
    (serves : exchange.Serves station replies) (alone : start.Alone station seen)
    (ran : exchange.run start = run)
    (sentRev : run.channel.network.sentRev =
      (exchange.schedule start requests).reverse ++ start.network.sentRev)
    (receivedRev : run.channel.network.receivedRev = got.reverse ++ start.network.receivedRev)
    (empty : run.channel.session.inbox = []) :
    Passed start station seen run.channel requests got := by
  subst ran
  obtain ⟨sent, record, tended⟩ := serves.carried.run start seen alone.tended
  have steady := (Carried.steady exchange).run start
  have count : sent.length = requests := by
    rw [List.append_cancel_right (record.symm.trans sentRev), List.length_reverse, length_schedule]
  rw [count] at tended
  exact ⟨⟨steady.quiet alone.quiet, tended, empty⟩, ⟨sent, record, count⟩, receivedRev⟩

variable {front : List Bytes} {reply : Bytes} {packet : α}

/-- Replies that are received as they were sent are awaited when they are accepted. -/
theorem awaits_eq {data : Bytes} {source : Endpoint}
    (whole : (⟨data, source⟩ : Datagram).cut exchange.receiveSize = ⟨data, source⟩)
    (time : Int) :
    exchange.awaits ⟨time, ⟨data, source⟩⟩ = (exchange.accept ⟨data, source⟩).toBool := by
  rw [awaits, whole]

/-- A responder that makes the given replies to the first request that it does not ignore: some
that are turned away, and one that is accepted. -/
structure Answers (exchange : Exchange α) (start : Channel) (station : Station) (seen : Nat)
    (replies : Int → Int → List Bytes) (front : List Bytes) (reply : Bytes) (packet : α) :
    Prop extends Serves exchange station replies where
  made : repliesAt station replies start.network.wallOffset
    (exchange.heededAt start station seen) = front ++ [reply]
  objects : ∀ other ∈ front, ∃ reason,
    exchange.accept ⟨other, station.endpoint⟩ = .error reason
  accepts : exchange.accept ⟨reply, station.endpoint⟩ = .ok packet

namespace Answers

theorem uncut (answers : exchange.Answers start station seen replies front reply packet)
    {data : Bytes} (mem : data ∈ front ++ [reply]) :
    (⟨data, station.endpoint⟩ : Datagram).cut exchange.receiveSize = ⟨data, station.endpoint⟩ :=
  answers.whole _ _ data (answers.made ▸ mem)

/-- The replies are received as they were sent. -/
theorem cut_arrivals (answers : exchange.Answers start station seen replies front reply packet)
    (sent : Int) :
    (station.arrivals (front ++ [reply]) sent).map (·.datagram.cut exchange.receiveSize) =
      (front ++ [reply]).map fun data => ⟨data, station.endpoint⟩ := by
  rw [Station.arrivals, List.map_map]
  apply List.map_congr_left
  intro data mem
  exact answers.uncut mem

theorem not_awaits (answers : exchange.Answers start station seen replies front reply packet)
    (sent : Int) : ∀ other ∈ station.arrivals front sent, exchange.awaits other = false := by
  intro other mem
  obtain ⟨data, chosen, rfl⟩ := List.mem_map.mp mem
  obtain ⟨reason, rejects⟩ := answers.objects data chosen
  rw [awaits_eq (answers.uncut (List.mem_append_left _ chosen)), rejects]
  rfl

end Answers

/-- What the answer tells of the one request that was answered. -/
structure Satisfied (exchange : Exchange α) (start : Channel) (station : Station) (seen : Nat)
    (packet : α) (answer : Answer α) (after : Channel) : Prop where
  packet : answer.packet = packet
  sentAt : answer.sentAt = Network.wholeSeconds
    (exchange.heededAt start station seen + start.network.wallOffset)
  receivedAt : answer.receivedAt = Network.wholeSeconds
    (exchange.heededAt start station seen + station.upMs + station.downMs +
      start.network.wallOffset)
  roundTrip : answer.roundTrip = station.upMs + station.downMs
  sentRev : after.network.sentRev =
    (exchange.schedule start (station.ignores seen + 1)).reverse ++ start.network.sentRev

namespace Answers

variable {answer : Answer α}

/-- When only the last of the replies is awaited, it is the answer, to the first request that the
responder does not ignore, and all replies are received by then. -/
theorem last_of_first {arrival : Arrival}
    (answers : exchange.Answers start station seen replies front reply packet)
    (alone : start.Alone station seen) (early : answer.attempts ≤ station.ignores seen + 1)
    (first : exchange.FirstAwaited start answer arrival after) :
    answer.attempts = station.ignores seen + 1 ∧ answer.packet = packet ∧
      arrival.time =
        exchange.heededAt start station seen + station.upMs + station.downMs ∧
      after.session.inbox = [] ∧
      after.network.receivedRev =
        ((front ++ [reply]).map fun data => (⟨data, station.endpoint⟩ : Datagram)).reverse ++
          start.network.receivedRev := by
  have found := first.first
  obtain ⟨passed, queued, received⟩ := first.queued
  -- Nothing is delivered by the attempts that are ignored.
  have number : answer.attempts = station.ignores seen + 1 := by
    apply Nat.le_antisymm early
    by_contra fewer
    rw [(answers.sendings alone answer.attempts).2 (by omega)] at found
    simp at found
  have delivered := answers.delivered alone
  rw [answers.made] at delivered
  generalize exchange.heededAt start station seen = sent at delivered ⊢
  have unwanted := answers.not_awaits sent
  rw [number, delivered, Station.arrivals_append] at found queued
  have awaited := List.find?_some found
  have last : arrival = ⟨sent + station.upMs + station.downMs, ⟨reply, station.endpoint⟩⟩ := by
    rw [List.find?_append, List.find?_eq_none.mpr (by simpa using unwanted)] at found
    exact List.mem_singleton.mp (List.mem_of_find?_eq_some found)
  have apart : arrival ∉ station.arrivals front sent := by
    intro mem
    rw [unwanted arrival mem] at awaited
    simp at awaited
  have single : station.arrivals [reply] sent = [arrival] := congrArg (· :: []) last.symm
  rw [single] at queued
  obtain ⟨rfl, -, empty⟩ := (List.append_cons_inj_of_notMem apart List.not_mem_nil).mp queued
  have read := first.packet
  refine ⟨number, ?_, by rw [last], empty.symm, ?_⟩
  · rw [last, answers.uncut (by simp), answers.accepts] at read
    exact (Except.ok.inj read).symm
  · rw [received, ← single, ← Station.arrivals_append, answers.cut_arrivals]

/-- An exchange whose requests are answered by a number of datagrams that it turns away and one that
it accepts ends with the latter, after as many requests as the responder ignores and one more. -/
theorem answered (answers : exchange.Answers start station seen replies front reply packet)
    (alone : start.Alone station seen)
    (soon : station.upMs + station.downMs < exchange.attemptMs)
    (exact : exchange.query.budget.timeoutMs < Network.exactWaitMs)
    (few : station.ignores seen ≤ exchange.query.budget.retries) :
    ∃ answer, (exchange.run start).outcome = .ok answer ∧
      exchange.Satisfied start station seen packet answer (exchange.run start).channel ∧
      Passed start station seen (exchange.run start).channel (station.ignores seen + 1)
        ((front ++ [reply]).map fun data => ⟨data, station.endpoint⟩) := by
  have up := answers.up
  have down := answers.down
  have positive : 0 < exchange.attemptMs := by omega
  obtain ⟨quiet, causal, ordered⟩ := answers.faultless alone
  have delivered := answers.delivered alone
  rw [answers.made] at delivered
  have last_mem : reply ∈ front ++ [reply] := List.mem_append_right _ (List.mem_singleton.mpr rfl)
  have awaited := awaits_eq (answers.uncut last_mem)
    (exchange.heededAt start station seen + station.upMs + station.downMs)
  rw [answers.accepts] at awaited
  have span : start.clock + (station.ignores seen + 1 : Nat) * exchange.attemptMs =
      exchange.heededAt start station seen + exchange.attemptMs := by
    simp only [heededAt]
    grind
  obtain ⟨answer, outcome, early⟩ := answered_of_awaited ⟨quiet, causal, ordered⟩ positive exact
    (Nat.succ_pos _) (Nat.succ_le_succ few)
    (delivered ▸ List.mem_map_of_mem last_mem) awaited
    (by rw [span]; simp only; omega)
  obtain ⟨-, -, arrival, first⟩ :=
    first_of_answered quiet causal ordered positive exact outcome
  obtain ⟨number, packet_eq, time, empty, receivedRev⟩ := answers.last_of_first alone early first
  obtain ⟨sentRev, sentAt, receivedAt⟩ :=
    (exchange.regular_run start quiet exact).answered answer outcome
  have share : 0 ≤ station.ignores seen * exchange.attemptMs :=
    Int.mul_nonneg (Int.natCast_nonneg _) (Int.le_of_lt positive)
  have last : start.clock + (answer.attempts - 1 : Int) * exchange.attemptMs =
      exchange.heededAt start station seen := by
    rw [number, Int.natCast_succ, Int.add_sub_cancel]
    rfl
  have began : start.clock ≤ exchange.heededAt start station seen := by
    simp only [heededAt]
    omega
  have clock : (exchange.run start).channel.clock =
      exchange.heededAt start station seen + station.upMs + station.downMs := by
    rw [first.clock, time]
    omega
  rw [number] at sentRev sentAt
  refine ⟨answer, outcome, ⟨packet_eq, sentAt, ?_, ?_, sentRev⟩,
    answers.passed alone rfl sentRev receivedRev empty⟩
  · rw [receivedAt, clock]
  · rw [first.roundTrip, last, clock]
    omega

end Answers

/-- An exchange whose requests are not answered makes all its attempts. -/
theorem Serves.unanswered (serves : exchange.Serves station fun _ _ => [])
    (alone : start.Alone station seen) (positive : 0 < exchange.attemptMs)
    (exact : exchange.query.budget.timeoutMs < Network.exactWaitMs) :
    (exchange.run start).outcome = .error (.reported .unanswered) ∧
      Passed start station seen (exchange.run start).channel exchange.query.budget.attempts [] := by
  obtain ⟨quiet, causal, ordered⟩ := serves.faultless alone
  cases outcome : (exchange.run start).outcome with
  | ok answer =>
    obtain ⟨-, -, arrival, first⟩ :=
      first_of_answered quiet causal ordered positive exact outcome
    have found := first.first
    rw [serves.delivered_nil alone] at found
    simp at found
  | error failure =>
    obtain ⟨rfl, ⟨passed, queued, receivedRev⟩, -⟩ :=
      none_of_unanswered quiet causal ordered positive exact outcome
    rw [serves.delivered_nil alone] at queued
    obtain ⟨rfl, empty⟩ := List.append_eq_nil_iff.mp queued.symm
    obtain ⟨-, sentRev, -⟩ :=
      (exchange.regular_run start alone.quiet exact).unanswered _ outcome
    exact ⟨rfl, serves.passed alone rfl sentRev receivedRev empty⟩

end Exchange

end NtpQuery
