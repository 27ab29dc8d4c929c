import NtpQuery.Proofs.Exchange.Round
import NtpQuery.Proofs.Metrics

/-!
# The ledger of an exchange

The network records every datagram that was sent or received, and the exchange
tells of them in events. The two agree whatever happens: there is one event for
each datagram sent, one for each datagram received, and the datagrams that were
turned away are those of the received ones that the exchange does not accept,
in the same order and for the reason that it gives. So statistics made from the
events say what the network saw.
-/

namespace NtpQuery

theorem Counts.ofEvents_reverse (events : List TimedEvent) :
    Counts.ofEvents events.reverse =
      { Counts.ofEvents events with reasons := (Counts.ofEvents events).reasons.reverse } := by
  simp only [Counts.ofEvents, List.countP_reverse, List.filterMap_reverse]

namespace Exchange

variable {α : Type} {exchange : Exchange α} {departure : Departure} {channel after : Channel}
  {trail trail' : Trail}

/-- Why a datagram is turned away; none when it is accepted. -/
def objection? (exchange : Exchange α) (datagram : Datagram) : Option String :=
  match exchange.accept datagram with
  | .ok _ => none
  | .error reason => some reason

theorem objection?_of_accept {datagram : Datagram} {packet : α}
    (accepts : exchange.accept datagram = .ok packet) : exchange.objection? datagram = none := by
  simp only [objection?, accepts]

theorem objection?_eq_some {datagram : Datagram} {reason : String} :
    exchange.objection? datagram = some reason ↔ exchange.accept datagram = .error reason := by
  cases accepts : exchange.accept datagram with
  | ok packet => simp [objection?, accepts]
  | error other => simp [objection?, accepts]

/-- Datagrams from one source that are turned away for known reasons, and one that is accepted. -/
theorem objections_eq {front : List Bytes} {reply : Bytes} {source : Endpoint}
    {reasons : List String} {packet : α}
    (objections : front.map (fun data => exchange.objection? ⟨data, source⟩) = reasons.map some)
    (accepts : exchange.accept ⟨reply, source⟩ = .ok packet) :
    front.length = reasons.length ∧
      (∀ data ∈ front, ∃ reason, exchange.accept ⟨data, source⟩ = .error reason) ∧
      ((front ++ [reply]).map fun data => (⟨data, source⟩ : Datagram)).filterMap
        exchange.objection? = reasons := by
  refine ⟨?_, ?_, ?_⟩
  · have sizes := congrArg List.length objections
    rwa [List.length_map, List.length_map] at sizes
  · intro data mem
    have among : exchange.objection? ⟨data, source⟩ ∈ reasons.map some :=
      objections ▸ List.mem_map.mpr ⟨data, mem, rfl⟩
    obtain ⟨reason, -, objection⟩ := List.mem_map.mp among
    exact ⟨reason, objection?_eq_some.mp objection.symm⟩
  · have turned : (front.map fun data => exchange.objection? ⟨data, source⟩).filterMap id =
        reasons := by
      rw [objections, List.filterMap_map]
      exact List.filterMap_some
    rw [List.filterMap_map] at turned ⊢
    rw [List.filterMap_append]
    simp only [List.filterMap_cons, List.filterMap_nil, Function.comp_apply,
      objection?_of_accept accepts, List.append_nil]
    exact turned

/-- What was told and what was recorded between two channels, both newest first. -/
structure Ledger (exchange : Exchange α) (channel after : Channel) (told : List TimedEvent)
    (sent : List SentDatagram) (got : List Datagram) : Prop where
  own : ∀ event ∈ told, event.event.OfExchange exchange.kindName
  sentRev : after.network.sentRev = sent ++ channel.network.sentRev
  receivedRev : after.network.receivedRev = got ++ channel.network.receivedRev
  counts : Counts.ofEvents told = ⟨sent.length, got.length, got.filterMap exchange.objection?⟩

namespace Ledger

variable {told later : List TimedEvent} {sent others : List SentDatagram} {got more : List Datagram}

/-- Nothing was sent or received, and nothing told that would be counted. -/
theorem of_same (own : ∀ event ∈ told, event.event.OfExchange exchange.kindName)
    (none : Counts.ofEvents told = ⟨0, 0, []⟩)
    (sentRev : after.network.sentRev = channel.network.sentRev)
    (receivedRev : after.network.receivedRev = channel.network.receivedRev) :
    exchange.Ledger channel after told [] [] :=
  ⟨own, sentRev, receivedRev, none⟩

theorem trans {middle : Channel} (h : exchange.Ledger channel middle told sent got)
    (h' : exchange.Ledger middle after later others more) :
    exchange.Ledger channel after (later ++ told) (others ++ sent) (more ++ got) := by
  refine ⟨?_, ?_, ?_, ?_⟩
  · intro event mem
    rcases List.mem_append.mp mem with mem | mem
    · exact h'.own event mem
    · exact h.own event mem
  · rw [h'.sentRev, h.sentRev, List.append_assoc]
  · rw [h'.receivedRev, h.receivedRev, List.append_assoc]
  · obtain ⟨sends, receives, reasons⟩ := Counts.mk.inj h.counts
    obtain ⟨sends', receives', reasons'⟩ := Counts.mk.inj h'.counts
    simp only [Counts.ofEvents, List.countP_append, List.filterMap_append, List.length_append,
      sends, sends', receives, receives', reasons, reasons']

end Ledger

/-- An event of the exchange alone. -/
theorem own_singleton {time : Int} {event : Event} (own : event.OfExchange exchange.kindName) :
    ∀ one ∈ [(⟨time, event⟩ : TimedEvent)], one.event.OfExchange exchange.kindName := by
  intro one mem
  rw [List.mem_singleton.mp mem]
  exact own

theorem ledger_wait {result : Except Failure Bool} (opened : channel.session.isOpen)
    (waited : channel.wait (exchange.remaining departure channel) = (result, after)) :
    exchange.Ledger channel after [] [] [] := by
  obtain ⟨socket, hs⟩ := Option.isSome_iff_exists.mp opened
  have nonneg : 0 ≤ exchange.remaining departure channel := Int.le_max_left 0 _
  obtain ⟨⟨clock, record, faults, hn⟩, -⟩ :=
    channel.network.wait_spec socket nonneg (Int.le_refl _)
  rw [Channel.wait_eq hs, hn, Prod.mk.injEq] at waited
  obtain ⟨-, rfl⟩ := waited
  exact .of_same (by simp) rfl rfl rfl

theorem ledger_dropped {refusal : Refusal} (dropped : channel.Dropped refusal after) :
    exchange.Ledger channel after [] [] [] := by
  obtain ⟨_, _, _, _, _, _, _, _, hn⟩ := dropped.network
  refine .of_same (by simp) rfl ?_ ?_
  · rw [hn]
  · rw [hn]

/-- A received datagram is told of, and once more when it is turned away. -/
theorem ledger_receive {ready : Channel} {datagram : Datagram}
    (opened : channel.session.isOpen)
    (waited : channel.wait (exchange.remaining departure channel) = (.ok true, ready))
    (received : ready.receive exchange.receiveSize = (.ok datagram, after))
    {told : List TimedEvent} (own : ∀ event ∈ told, event.event.OfExchange exchange.kindName)
    (counts : Counts.ofEvents told = ⟨0, 1, (exchange.objection? datagram).toList⟩) :
    exchange.Ledger channel after told [] [datagram] := by
  have session := session_of_wait opened waited
  have taken := Channel.receive_ok (session ▸ opened) received
  obtain ⟨-, sentRev, receivedRev, -⟩ := ledger_wait opened waited
  refine ⟨own, taken.sentRev.trans sentRev, ?_, ?_⟩
  · rw [taken.receivedRev, receivedRev]
    rfl
  · rw [counts]
    cases objection : exchange.objection? datagram with
    | none => simp [objection]
    | some reason => simp [objection]

theorem Step.ledger {ending : Option (Ending α)} (opened : channel.session.isOpen)
    (step : exchange.Step departure channel trail ending trail' after) :
    ∃ told sent got, trail'.eventsRev = told ++ trail.eventsRev ∧
      exchange.Ledger channel after told sent got := by
  cases step with
  | unwaited waited => exact ⟨[], [], [], rfl, ledger_wait opened waited⟩
  | timedOut waited =>
    obtain ⟨-, sentRev, receivedRev, -⟩ := ledger_wait opened waited
    exact ⟨[_], [], [], rfl, .of_same (own_singleton .attemptTimeout) rfl sentRev receivedRev⟩
  | unreceived waited received =>
    have session := session_of_wait opened waited
    have dropped :=
      (Channel.receive_error (session ▸ opened) (inbox_ne_nil opened waited) received).1
    exact ⟨_, _, _, rfl, (ledger_wait opened waited).trans (ledger_dropped dropped)⟩
  | accepted waited received accepts =>
    refine ⟨[_], [], [_], rfl, ledger_receive opened waited received (own_singleton .received) ?_⟩
    rw [objection?_of_accept accepts]
    rfl
  | late waited received rejects =>
    refine ⟨[_, _], [], [_], rfl, ledger_receive opened waited received ?_ ?_⟩
    · simp [Event.OfExchange.discarded, Event.OfExchange.received]
    · rw [objection?_eq_some.mpr rejects]
      rfl
  | again waited received rejects =>
    refine ⟨[_, _], [], [_], rfl, ledger_receive opened waited received ?_ ?_⟩
    · simp [Event.OfExchange.discarded, Event.OfExchange.received]
    · rw [objection?_eq_some.mpr rejects]
      rfl

theorem ledger_listen (departure : Departure) (trail : Trail) (opened : channel.session.isOpen) :
    ∃ told sent got,
      (exchange.listen departure channel trail).2.1.eventsRev = told ++ trail.eventsRev ∧
        exchange.Ledger channel (exchange.listen departure channel trail).2.2 told sent got := by
  refine listen_induction (motive := fun channel trail _ trail' after =>
      ∃ told sent got, trail'.eventsRev = told ++ trail.eventsRev ∧
        exchange.Ledger channel after told sent got)
    ?_ ?_ channel trail opened
  · intro channel trail ending trail' after opened step
    exact step.ledger opened
  · intro channel trail trail' next ending trail'' after opened step rest
    obtain ⟨told, sent, got, events, ledger⟩ := step.ledger opened
    obtain ⟨later, others, more, events', ledger'⟩ := rest
    refine ⟨_, _, _, ?_, ledger.trans ledger'⟩
    rw [events', events, List.append_assoc]

/-- A request is told of when it has left, and then what is heard. -/
theorem ledger_attend {sent : Channel} {ending : Ending α}
    (sending : exchange.launch channel trail = (.ok (), sent))
    (heard : exchange.attend channel trail sent = (ending, trail', after)) :
    ∃ told requests got, trail'.eventsRev = told ++ trail.eventsRev ∧
      exchange.Ledger channel after told requests got := by
  have off := Channel.send_ok sending
  have asking : exchange.Ledger channel sent
      [⟨sent.clock, .sent exchange.kindName (beginning trail).attempts
        (exchange.requestOf (beginning trail) channel).length exchange.sequence⟩]
      [⟨channel.clock, exchange.requestOf (beginning trail) channel,
        exchange.query.destination⟩] [] :=
    ⟨own_singleton .sent, off.sentRev, off.receivedRev, rfl⟩
  obtain ⟨told, requests, got, events, ledger⟩ := ledger_listen
    ⟨channel.network.wallSeconds, sent.clock⟩
    (exchange.asked (beginning trail) (exchange.requestOf (beginning trail) channel) sent) off.isOpen
  rw [← attend, heard] at events ledger
  refine ⟨_, _, _, ?_, asking.trans ledger⟩
  rw [events, List.append_assoc]
  rfl

theorem ledger_attempt (exchange : Exchange α) (left : Nat) (channel : Channel) (trail : Trail) :
    ∃ told sent got,
      (exchange.attempt left channel trail).trail.eventsRev = told ++ trail.eventsRev ∧
        exchange.Ledger channel (exchange.attempt left channel trail).channel told sent got := by
  refine attempt_induction (motive := fun _ channel trail run =>
      ∃ told sent got, run.trail.eventsRev = told ++ trail.eventsRev ∧
        exchange.Ledger channel run.channel told sent got)
    ?_ ?_ ?_ ?_ ?_ left channel trail
  · intro channel trail
    exact ⟨[_], [], [], rfl, .of_same (own_singleton .exhausted) rfl rfl rfl⟩
  · intro left channel trail failure after sending
    obtain ⟨refusal, -, dropped, -⟩ := Channel.send_error sending
    exact ⟨[], [], [], rfl, ledger_dropped dropped⟩
  · intro left channel trail sent answer trail' after sending heard
    exact ledger_attend sending heard
  · intro left channel trail sent failure trail' after sending heard
    exact ledger_attend sending heard
  · intro left channel trail sent trail' after run sending heard rest
    obtain ⟨told, requests, got, events, ledger⟩ := ledger_attend sending heard
    obtain ⟨later, others, more, events', ledger'⟩ := rest
    refine ⟨_, _, _, ?_, ledger.trans ledger'⟩
    rw [events', events, List.append_assoc]

/-- The events of an exchange say what the network recorded during it. -/
theorem ledger_run (exchange : Exchange α) (channel : Channel) :
    ∃ sent got, exchange.Ledger channel (exchange.run channel).channel
      (exchange.run channel).trail.eventsRev sent got := by
  obtain ⟨told, sent, got, events, ledger⟩ :=
    exchange.ledger_attempt exchange.query.budget.attempts channel (Trail.enter {} .idle)
  have whole : (exchange.run channel).trail.eventsRev = told :=
    events.trans (List.append_nil told)
  exact ⟨sent, got, whole ▸ ledger⟩

end Exchange

namespace Client

/-- The statistics of a client after an exchange have grown by what the network recorded. -/
theorem kind_after {α : Type} (client : Client) (exchange : Exchange α)
    {sent : List SentDatagram} {got : List Datagram}
    (sentRev : (exchange.run client.channel).channel.network.sentRev =
      sent ++ client.network.sentRev)
    (receivedRev : (exchange.run client.channel).channel.network.receivedRev =
      got ++ client.network.receivedRev) :
    (client.after (exchange.run client.channel)).record.metrics.window =
        client.record.metrics.window ∧
      ∀ name, (client.after (exchange.run client.channel)).record.metrics.kind name =
        if name = exchange.kindName then
          (client.record.metrics.kind name).add
            ⟨sent.length, got.length, got.reverse.filterMap exchange.objection?⟩
        else client.record.metrics.kind name := by
  obtain ⟨sent', got', ledger⟩ := exchange.ledger_run client.channel
  obtain rfl := List.append_cancel_right (sentRev.symm.trans ledger.sentRev)
  obtain rfl := List.append_cancel_right (receivedRev.symm.trans ledger.receivedRev)
  have own : ∀ event ∈ (exchange.run client.channel).trail.events,
      event.event.OfExchange exchange.kindName := by
    intro event mem
    exact ledger.own event (List.mem_reverse.mp mem)
  have counts : Counts.ofEvents (exchange.run client.channel).trail.events =
      ⟨sent.length, got.length, got.reverse.filterMap exchange.objection?⟩ := by
    rw [Trail.events, Counts.ofEvents_reverse, ledger.counts, List.filterMap_reverse]
  rw [← counts]
  exact Record.kind_observeAll own

end Client

end NtpQuery
