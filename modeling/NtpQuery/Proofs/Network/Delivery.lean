import NtpQuery.Proofs.Network.Refusal

/-!
# Datagrams on their way

What a sent datagram brings in depends on the clocks, the script and the
responder, and on nothing else. It uses up one element of the script and may
change what the responder has counted, never how it was set up.

An inbox stays in the order of arrival when a datagram is queued. A datagram
that arrives no earlier than all of a front part leaves that part in place,
so what was already taken out of an inbox can be thought of as still being in
front of it.
-/

namespace NtpQuery

namespace Inbox

def Ordered (inbox : Inbox) : Prop :=
  inbox.Pairwise fun earlier later => earlier.time ≤ later.time

@[simp] theorem enqueueAll_nil (inbox : Inbox) : inbox.enqueueAll [] = inbox := rfl

@[simp] theorem enqueueAll_cons (inbox : Inbox) (arrival : Arrival) (arrivals : List Arrival) :
    inbox.enqueueAll (arrival :: arrivals) = (inbox.enqueue arrival).enqueueAll arrivals := rfl

theorem mem_enqueue {inbox : Inbox} {arrival other : Arrival} :
    other ∈ inbox.enqueue arrival ↔ other = arrival ∨ other ∈ inbox := by
  have parts := List.takeWhile_append_dropWhile (p := (·.time ≤ arrival.time)) (l := inbox)
  rw [← parts, List.mem_append, parts]
  simp only [enqueue, List.mem_append, List.mem_cons]
  exact or_left_comm

theorem mem_enqueueAll {inbox : Inbox} {arrivals : List Arrival} {other : Arrival} :
    other ∈ inbox.enqueueAll arrivals ↔ other ∈ arrivals ∨ other ∈ inbox := by
  induction arrivals generalizing inbox with
  | nil => simp
  | cons arrival arrivals ih =>
    rw [enqueueAll_cons, ih, mem_enqueue, List.mem_cons, or_left_comm, or_assoc]

theorem enqueue_cons_of_le {first arrival : Arrival} (h : first.time ≤ arrival.time)
    (rest : Inbox) : Inbox.enqueue (first :: rest) arrival = first :: Inbox.enqueue rest arrival := by
  simp [Inbox.enqueue, h]

theorem enqueue_of_behind {inbox : Inbox} {arrival : Arrival}
    (h : ∀ other ∈ inbox, arrival.time < other.time) :
    inbox.enqueue arrival = arrival :: inbox := by
  cases inbox with
  | nil => rfl
  | cons first rest =>
    have := h first List.mem_cons_self
    have later : ¬ first.time ≤ arrival.time := by omega
    simp [Inbox.enqueue, later]

theorem Ordered.behind {first : Arrival} {rest : Inbox} (h : Inbox.Ordered (first :: rest))
    {arrival : Arrival} (soon : arrival.time < first.time) :
    ∀ other ∈ first :: rest, arrival.time < other.time := by
  intro other mem
  rcases List.mem_cons.mp mem with rfl | mem
  · exact soon
  · have := (List.pairwise_cons.mp h).1 other mem
    omega

theorem Ordered.enqueue {inbox : Inbox} (h : inbox.Ordered) (arrival : Arrival) :
    (inbox.enqueue arrival).Ordered := by
  induction inbox with
  | nil => simp [Ordered, Inbox.enqueue]
  | cons first rest ih =>
    obtain ⟨hfirst, hrest⟩ := List.pairwise_cons.mp h
    by_cases hle : first.time ≤ arrival.time
    · rw [enqueue_cons_of_le hle]
      apply List.Pairwise.cons _ (ih hrest)
      intro other ho
      rcases mem_enqueue.mp ho with rfl | ho
      · exact hle
      · exact hfirst other ho
    · have soon := h.behind (Int.not_le.mp hle)
      rw [enqueue_of_behind soon]
      exact List.Pairwise.cons (fun other mem => Int.le_of_lt (soon other mem)) h

/-- The first datagram of some kind comes no later than any other of this kind. -/
theorem Ordered.find?_le {inbox : Inbox} (h : inbox.Ordered) {p : Arrival → Bool}
    {first other : Arrival} (found : inbox.find? p = some first) (mem : other ∈ inbox)
    (wanted : p other = true) : first.time ≤ other.time := by
  obtain ⟨-, passed, rest, rfl, unwanted⟩ := List.find?_eq_some_iff_append.mp found
  rcases List.mem_append.mp mem with mem | mem
  · have unwanted := unwanted other mem
    simp [wanted] at unwanted
  · rcases List.mem_cons.mp mem with rfl | mem
    · exact Int.le_refl _
    · exact (List.pairwise_cons.mp (List.pairwise_append.mp h).2.1).1 other mem

theorem Ordered.enqueueAll {inbox : Inbox} (h : inbox.Ordered) (arrivals : List Arrival) :
    (inbox.enqueueAll arrivals).Ordered := by
  induction arrivals generalizing inbox with
  | nil => exact h
  | cons arrival arrivals ih => exact ih (h.enqueue arrival)

theorem enqueue_append {front : Inbox} {arrival : Arrival}
    (h : ∀ earlier ∈ front, earlier.time ≤ arrival.time) (inbox : Inbox) :
    enqueue (front ++ inbox) arrival = front ++ inbox.enqueue arrival := by
  have all : ∀ earlier ∈ front, decide (earlier.time ≤ arrival.time) = true := by simpa using h
  simp only [enqueue]
  rw [List.takeWhile_append_of_pos all, List.dropWhile_append_of_pos all, List.append_assoc]

theorem enqueueAll_append {front : Inbox} {arrivals : List Arrival}
    (h : ∀ earlier ∈ front, ∀ arrival ∈ arrivals, earlier.time ≤ arrival.time)
    (inbox : Inbox) :
    enqueueAll (front ++ inbox) arrivals = front ++ inbox.enqueueAll arrivals := by
  induction arrivals generalizing inbox with
  | nil => rfl
  | cons arrival arrivals ih =>
    rw [enqueueAll_cons, enqueue_append fun earlier he => h earlier he _ List.mem_cons_self]
    exact ih (fun earlier he other ho => h earlier he other (List.mem_cons_of_mem _ ho)) _

/-- Datagrams that come in order are queued as they are. -/
theorem enqueueAll_of_ordered {arrivals : List Arrival} (h : Ordered arrivals) :
    enqueueAll [] arrivals = arrivals := by
  induction arrivals with
  | nil => rfl
  | cons first rest ih =>
    obtain ⟨behind, ordered⟩ := List.pairwise_cons.mp h
    have front : ∀ earlier ∈ [first], ∀ arrival ∈ rest, earlier.time ≤ arrival.time := by
      intro earlier mem
      rw [List.mem_singleton.mp mem]
      exact behind
    have queued := enqueueAll_append front []
    rw [List.append_nil, ih ordered] at queued
    exact queued

/-- Queueing in order goes on among some of the datagrams as if the others were not there. -/
theorem filter_enqueue {inbox : Inbox} (h : inbox.Ordered) (p : Arrival → Bool)
    (arrival : Arrival) :
    (inbox.enqueue arrival).filter p =
      enqueueAll (inbox.filter p) ([arrival].filter p) := by
  induction inbox with
  | nil => cases hp : p arrival <;> simp [Inbox.enqueue, hp]
  | cons first rest ih =>
    by_cases hle : first.time ≤ arrival.time
    · rw [enqueue_cons_of_le hle, List.filter_cons, ih (List.pairwise_cons.mp h).2]
      cases hf : p first with
      | false => simp [hf]
      | true =>
        cases hp : p arrival with
        | false => simp [hf, hp]
        | true => simp [hf, hp, enqueue_cons_of_le hle]
    · have soon := h.behind (Int.not_le.mp hle)
      rw [enqueue_of_behind soon]
      cases hp : p arrival with
      | false => simp [hp]
      | true =>
        have among : ∀ other ∈ (first :: rest).filter p, arrival.time < other.time :=
          fun other mem => soon other (List.mem_filter.mp mem).1
        rw [List.filter_cons_of_pos hp, List.filter_cons_of_pos hp]
        exact (enqueue_of_behind among).symm

theorem filter_enqueueAll {inbox : Inbox} (h : inbox.Ordered) (p : Arrival → Bool)
    (arrivals : List Arrival) :
    (inbox.enqueueAll arrivals).filter p =
      enqueueAll (inbox.filter p) (arrivals.filter p) := by
  induction arrivals generalizing inbox with
  | nil => rfl
  | cons arrival arrivals ih =>
    rw [enqueueAll_cons, ih (h.enqueue arrival), filter_enqueue h, List.filter_cons]
    cases hp : p arrival <;> simp [hp, enqueueAll]

end Inbox

namespace Datagram

theorem data_cut (datagram : Datagram) (size : Nat) :
    (datagram.cut size).data = datagram.data.take size := by
  rw [cut, truncated, if_pos (Int.natCast_nonneg size)]
  rfl

theorem cut_of_short {datagram : Datagram} {size : Nat} (short : datagram.data.length ≤ size) :
    datagram.cut size = datagram := by
  have whole : truncated size datagram.data = datagram.data :=
    (datagram.data_cut size).trans (List.take_of_length_le short)
  rw [cut, whole]

end Datagram

/-- A responder as it was set up, without what it counted. -/
def Station.setup (station : Station) : Station :=
  { station with stats := {}, alive := true }

namespace Network

/-- The ways in which a sent datagram can bring another one in. -/
inductive Brings (net : Network) (data : Bytes) (destination : Endpoint) : Arrival → Prop
  | scripted {deliveries : List Delivery} {delivery : Delivery}
      (due : net.script.head? = some deliveries) (mem : delivery ∈ deliveries) :
      Brings net data destination ⟨net.clock + delivery.delayMs, delivery.datagram⟩
  | replied {station : Station} {stats : ResponderStats} {replies : List Bytes}
      {reply : Bytes} (here : net.station = some station)
      (asked : station.endpoint = destination)
      (handled : (Responder.handle station.config (wholeSeconds (net.wallMs + station.upMs))
        (data.take Wire.controlPacketSize) stats).1 = .ok replies)
      (mem : reply ∈ replies) :
      Brings net data destination
        ⟨net.clock + station.upMs + station.downMs, ⟨reply, station.endpoint⟩⟩

theorem scripted_eq (net : Network) :
    net.scripted =
      ((net.script.headD []).map fun d => ⟨net.clock + d.delayMs, d.datagram⟩,
        { net with script := net.script.tail }) := by
  rw [scripted]
  cases h : net.script with
  | nil =>
    cases net
    simp_all
  | cons deliveries script => rfl

/-- The replies depend on the clocks and the responder alone. -/
theorem responded_eq (net : Network) (data : Bytes) (destination : Endpoint) :
    ∃ replies station, station.map Station.setup = net.station.map Station.setup ∧
      ∀ other : Network, other.clock = net.clock → other.wallOffset = net.wallOffset →
        other.station = net.station →
        other.responded data destination = (replies, { other with station }) := by
  simp only [responded, wallMs]
  cases hs : net.station with
  | none =>
    refine ⟨[], none, rfl, ?_⟩
    intro other clock offset same
    have unchanged : { other with station := none } = other := by rw [← same]
    simp [same, unchanged]
  | some station =>
    by_cases asked : (station.alive && decide (station.endpoint = destination)) = true
    · cases handled : Responder.handle station.config
          (wholeSeconds (net.clock + net.wallOffset + station.upMs))
          (data.take Wire.controlPacketSize) station.stats with
      | mk result stats =>
        cases result with
        | error failure =>
          refine ⟨[], some { station with stats, alive := false }, rfl, ?_⟩
          intro other clock offset same
          simp [clock, offset, same, asked, handled]
        | ok replies =>
          refine ⟨replies.map fun reply =>
              ⟨net.clock + station.upMs + station.downMs, ⟨reply, station.endpoint⟩⟩,
            some { station with stats }, rfl, ?_⟩
          intro other clock offset same
          simp [clock, offset, same, asked, handled]
    · refine ⟨[], some station, rfl, ?_⟩
      intro other clock offset same
      have unchanged : { other with station := some station } = other := by rw [← same]
      simp [same, asked, unchanged]

/-- What the script holds is brought in beside the replies, which do not depend on the script. -/
theorem bring_split (net : Network) (data : Bytes) (destination : Endpoint) :
    ∃ replies station, station.map Station.setup = net.station.map Station.setup ∧
      ∀ other : Network, other.clock = net.clock → other.wallOffset = net.wallOffset →
        other.station = net.station →
        other.bring data destination =
          ((other.script.headD []).map (fun d => ⟨net.clock + d.delayMs, d.datagram⟩) ++ replies,
            { other with script := other.script.tail, station }) := by
  obtain ⟨replies, station, setup, responded⟩ := net.responded_eq data destination
  refine ⟨replies, station, setup, ?_⟩
  intro other clock offset same
  simp only [bring, scripted_eq]
  rw [responded { other with script := other.script.tail } clock offset same, clock]

/-- What is brought in is the same on networks that agree on what it depends on. -/
theorem bring_eq (net : Network) (data : Bytes) (destination : Endpoint) :
    ∃ station, station.map Station.setup = net.station.map Station.setup ∧
      ∀ other : Network, other.clock = net.clock → other.wallOffset = net.wallOffset →
        other.script = net.script → other.station = net.station →
        other.bring data destination =
          ((net.bring data destination).1, { other with script := net.script.tail, station }) := by
  obtain ⟨replies, station, setup, bring⟩ := net.bring_split data destination
  refine ⟨station, setup, ?_⟩
  intro other clock offset script same
  rw [bring other clock offset same, bring net rfl rfl rfl, script]

theorem brings_of_mem_bring {net : Network} {data : Bytes} {destination : Endpoint}
    {arrival : Arrival} (h : arrival ∈ (net.bring data destination).1) :
    net.Brings data destination arrival := by
  simp only [bring, scripted_eq, List.mem_append] at h
  cases h with
  | inl h =>
    obtain ⟨delivery, mem, rfl⟩ := List.mem_map.mp h
    cases hs : net.script with
    | nil => simp [hs] at mem
    | cons deliveries script =>
      have due : net.script.head? = some deliveries := by
        rw [hs, List.head?_cons]
      rw [hs, List.headD_cons] at mem
      exact .scripted due mem
  | inr h =>
    rw [responded] at h
    cases hs : net.station with
    | none => simp [hs] at h
    | some station =>
      by_cases asked : (station.alive && decide (station.endpoint = destination)) = true
      · simp only [hs, asked, if_true] at h
        split at h
        · simp at h
        · rename_i replies stats handled
          obtain ⟨reply, mem, rfl⟩ := List.mem_map.mp h
          simp only [Bool.and_eq_true, decide_eq_true_eq] at asked
          exact .replied hs asked.2 (congrArg Prod.fst handled) mem
      · simp [hs, asked] at h

end Network

end NtpQuery
