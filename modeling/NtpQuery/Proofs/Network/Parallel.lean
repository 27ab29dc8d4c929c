import NtpQuery.Proofs.Network.Delivery
import NtpQuery.Proofs.Network.Waiting

/-!
# Parallel networks

What a network will do is in its script and in its faults. An operation that
succeeds uses up a part of them, and what was used up until some later time can
be told from the records: an element of the script and a call to send for each
datagram that was sent, and likewise for datagrams that were received, for
waits and for sockets. Of an element of the script no more matters than the
datagrams that arrive until then.

Two networks that agree on all this are parallel until then, whatever either of
them holds for later. The operations do the same on both, as far as they
succeed. A failure leaves no record of what it used up.
-/

namespace NtpQuery

/-- Two lists that agree on their first elements. What a list does not have is the default. -/
def Agree {α : Type} (default : α) (n : Nat) (left right : List α) : Prop :=
  ∀ k < n, left.getD k default = right.getD k default

namespace Agree

variable {α : Type} {default : α} {n m : Nat} {left right : List α}

theorem head (agree : Agree default n left right) (some : 0 < n) :
    right.headD default = left.headD default := by
  rw [List.headD_eq_getD, List.headD_eq_getD]
  exact (agree 0 some).symm

theorem tail (agree : Agree default n left right) (fewer : m + 1 ≤ n) :
    Agree default m left.tail right.tail := by
  intro k few
  have next := agree (k + 1) (by omega)
  simp only [List.getD_eq_getElem?_getD] at next ⊢
  rw [List.getElem?_tail, List.getElem?_tail]
  exact next

/-- A call that the one list decides, the other decides as well. -/
theorem nextCall {calls others rest : List (Option α)} {call : Option α}
    (agree : Agree none n calls others) (fewer : m + 1 ≤ n)
    (h : NtpQuery.nextCall calls = (call, rest)) :
    ∃ rest', NtpQuery.nextCall others = (call, rest') ∧ Agree none m rest rest' := by
  have split : ∀ list : List (Option α),
      NtpQuery.nextCall list = (list.headD none, list.tail) := by
    intro list
    cases list with
    | nil => rfl
    | cons first rest => rfl
  rw [split, Prod.mk.injEq] at h
  obtain ⟨rfl, rfl⟩ := h
  exact ⟨others.tail, by rw [split, agree.head (by omega)], agree.tail fewer⟩

end Agree

namespace Inbox

/-- The datagrams that are received until a time, if anything is. -/
def upTo (inbox : Inbox) (horizon : Int) : Inbox :=
  inbox.takeWhile (·.time ≤ horizon)

variable {horizon : Int}

theorem upTo_cons (first : Arrival) (rest : Inbox) :
    upTo (first :: rest) horizon =
      if first.time ≤ horizon then first :: rest.upTo horizon else [] := by
  by_cases soon : first.time ≤ horizon
  · simp [upTo, soon]
  · simp [upTo, soon]

/-- What arrives later is queued behind. -/
theorem upTo_enqueue (inbox : Inbox) (arrival : Arrival) :
    (inbox.enqueue arrival).upTo horizon =
      enqueueAll (inbox.upTo horizon) ([arrival].filter (·.time ≤ horizon)) := by
  induction inbox with
  | nil =>
    by_cases soon : arrival.time ≤ horizon
    · simp [enqueue, upTo, soon]
    · simp [enqueue, upTo, soon]
  | cons first rest ih =>
    by_cases before : first.time ≤ arrival.time
    · rw [enqueue_cons_of_le before, upTo_cons, upTo_cons, ih]
      by_cases soon : arrival.time ≤ horizon
      · have sooner : first.time ≤ horizon := by omega
        simp [soon, sooner, enqueue_cons_of_le before]
      · simp [soon]
    · have queued : enqueue (first :: rest) arrival = arrival :: first :: rest := by
        simp [enqueue, before]
      rw [queued, upTo_cons]
      by_cases soon : arrival.time ≤ horizon
      · by_cases sooner : first.time ≤ horizon
        · simp [soon, upTo_cons, sooner, enqueue, before]
        · simp [soon, upTo_cons, sooner, enqueue]
      · have later : ¬ first.time ≤ horizon := by omega
        simp [soon, upTo_cons, later]

theorem upTo_enqueueAll (inbox : Inbox) (arrivals : List Arrival) :
    (inbox.enqueueAll arrivals).upTo horizon =
      (inbox.upTo horizon).enqueueAll (arrivals.filter (·.time ≤ horizon)) := by
  induction arrivals generalizing inbox with
  | nil => rfl
  | cons arrival arrivals ih =>
    rw [enqueueAll_cons, ih, upTo_enqueue, List.filter_cons]
    by_cases soon : arrival.time ≤ horizon
    · simp [soon]
    · simp [soon]

/-- A wait that is over by then cannot tell what comes later. -/
theorem await_of_upTo {inbox other : Inbox} (same : other.upTo horizon = inbox.upTo horizon)
    {clock timeoutMs : Int} (early : (inbox.await clock timeoutMs).2 ≤ horizon) :
    other.await clock timeoutMs = inbox.await clock timeoutMs := by
  -- Without a datagram until then, there is none within the timeout.
  have silent : ∀ late : Inbox, late.upTo horizon = [] → clock + timeoutMs ≤ horizon →
      late.await clock timeoutMs = (false, clock + timeoutMs) := by
    intro late none elapsed
    cases late with
    | nil => rfl
    | cons first rest =>
      rw [upTo_cons] at none
      split at none
      · simp at none
      · simp only [await]
        rw [if_neg (by omega)]
  cases inbox with
  | nil => exact silent other same early
  | cons first rest =>
    by_cases soon : first.time ≤ horizon
    · rw [upTo_cons first, if_pos soon] at same
      cases other with
      | nil => simp [upTo] at same
      | cons first' rest' =>
        rw [upTo_cons] at same
        split at same
        · obtain ⟨rfl, -⟩ := List.cons.inj same
          rfl
        · simp at same
    · have none : upTo (first :: rest) horizon = [] := by rw [upTo_cons, if_neg soon]
      have elapsed : clock + timeoutMs ≤ horizon := by
        simp only [await] at early
        split at early
        · simp only at early
          omega
        · exact early
      rw [silent other (same.trans none) elapsed, silent _ none elapsed]

end Inbox

/-- Sockets that hold the same until a time. -/
structure Socket.Parallel (horizon : Int) (socket other : Socket) : Prop where
  elsewhere : other = { socket with inbox := other.inbox }
  inbox : other.inbox.upTo horizon = socket.inbox.upTo horizon

namespace Network

/-- The second network has all that the first one has recorded. Its clock, less what interruptions
may still turn it back, has not fallen. -/
structure Grown (net after : Network) : Prop where
  sent : net.sentRev <:+ after.sentRev
  received : net.receivedRev.length ≤ after.receivedRev.length
  waits : net.waitsRev.length ≤ after.waitsRev.length
  created : net.socketsCreated ≤ after.socketsCreated
  clock : net.clock - setback net.faults.wait ≤ after.clock - setback after.faults.wait
  spent : setback after.faults.wait ≤ setback net.faults.wait

theorem Grown.refl (net : Network) : net.Grown net :=
  ⟨List.suffix_refl _, Nat.le_refl _, Nat.le_refl _, Nat.le_refl _, Int.le_refl _, Int.le_refl _⟩

theorem Grown.trans {first second third : Network} (h : first.Grown second)
    (h' : second.Grown third) : first.Grown third :=
  ⟨h.sent.trans h'.sent, Nat.le_trans h.received h'.received, Nat.le_trans h.waits h'.waits,
    Nat.le_trans h.created h'.created, Int.le_trans h.clock h'.clock, Int.le_trans h'.spent h.spent⟩

/-- The datagrams that a script has brought in for one that was sent at a time. -/
def arrivalsAt (time : Int) (deliveries : List Delivery) : List Arrival :=
  deliveries.map fun d => ⟨time + d.delayMs, d.datagram⟩

/-- Networks that cannot be told apart until the first one has become the final one. No time until
then is beyond the horizon, so what arrives later may differ, and so may all that was not used. -/
structure Parallel (horizon : Int) (net final other : Network) : Prop where
  elsewhere : other = { net with script := other.script, faults := other.faults }
  script : ∀ k sent, final.sentRev.reverse[net.sentRev.length + k]? = some sent →
    (arrivalsAt sent.time (other.script.getD k [])).filter (·.time ≤ horizon) =
      (arrivalsAt sent.time (net.script.getD k [])).filter (·.time ≤ horizon)
  send : Agree none (final.sentRev.length - net.sentRev.length) net.faults.send other.faults.send
  receive : Agree none (final.receivedRev.length - net.receivedRev.length) net.faults.receive
    other.faults.receive
  wait : Agree none (final.waitsRev.length - net.waitsRev.length) net.faults.wait
    other.faults.wait
  create : Agree none (final.socketsCreated - net.socketsCreated) net.faults.create
    other.faults.create
  bind : Agree none (final.socketsCreated - net.socketsCreated) net.faults.bind other.faults.bind
  clock : final.clock + setback net.faults.wait ≤ horizon

variable {horizon : Int} {net after final other : Network}

/-- No time between the two is beyond the horizon. -/
theorem Parallel.early (parallel : net.Parallel horizon final other) (grown : net.Grown after)
    (grown' : after.Grown final) : after.clock ≤ horizon := by
  have before := grown.spent
  have later := grown'.clock
  have bound := parallel.clock
  have nonneg := setback_nonneg final.faults.wait
  omega

/-- A socket that is opened here is opened in the same way there. -/
theorem openSocket_parallel {bindHost : String} {socket : Socket}
    (h : net.openSocket bindHost = (.ok socket, after)) :
    net.Grown after ∧ ∀ {horizon final other}, after.Grown final →
      net.Parallel horizon final other →
      ∃ other', other.openSocket bindHost = (.ok socket, other') ∧
        after.Parallel horizon final other' := by
  obtain ⟨create, bind, creating, binding, rfl, ha⟩ := openSocket_eq_ok h
  have created : after.socketsCreated = net.socketsCreated + 1 := by rw [ha]
  refine ⟨?_, ?_⟩
  · rw [ha]
    exact ⟨List.suffix_refl _, Nat.le_refl _, Nat.le_refl _, Nat.le_succ _, Int.le_refl _,
      Int.le_refl _⟩
  · intro horizon final other grown parallel
    have fewer := grown.created
    obtain ⟨creates, creating', create_agrees⟩ := parallel.create.nextCall
      (m := final.socketsCreated - after.socketsCreated) (by omega) creating
    obtain ⟨binds, binding', bind_agrees⟩ := parallel.bind.nextCall
      (m := final.socketsCreated - after.socketsCreated) (by omega) binding
    obtain ⟨elsewhere, script, send, receive, wait, -, -, clock⟩ := parallel
    refine ⟨{ after with
      script := other.script
      faults := { other.faults with create := creates, bind := binds } }, ?_⟩
    subst ha
    refine ⟨?_, rfl, script, send, receive, wait, create_agrees, bind_agrees, clock⟩
    rw [elsewhere]
    simp only [openSocket, creating', binding', assignPort]

/-- So is a datagram that is sent, and what it brings in until the horizon. -/
theorem send_parallel {socket sent : Socket} {data : Bytes} {destination : Endpoint}
    (h : net.send socket data destination = (.ok sent, after)) :
    net.Grown after ∧ ∀ {horizon final other socket'}, after.Grown final →
      net.Parallel horizon final other → socket.Parallel horizon socket' →
      ∃ sent' other', other.send socket' data destination = (.ok sent', other') ∧
        sent.Parallel horizon sent' ∧ after.Parallel horizon final other' := by
  obtain ⟨replies, station, -, bring⟩ := net.bring_split data destination
  rw [send] at h
  cases call : nextCall net.faults.send with
  | mk fault rest =>
    cases fault with
    | some reason => simp [call] at h
    | none =>
      simp only [call, bring, Prod.mk.injEq, Except.ok.injEq] at h
      obtain ⟨rfl, ha⟩ := h
      have sentRev : after.sentRev = ⟨net.clock, data, destination⟩ :: net.sentRev := by rw [← ha]
      refine ⟨?_, ?_⟩
      · rw [← ha]
        exact ⟨List.suffix_cons _ _, Nat.le_refl _, Nat.le_refl _, Nat.le_refl _, Int.le_refl _,
          Int.le_refl _⟩
      · intro horizon final other socket' grown parallel sockets
        have fewer := grown.sent.length_le
        rw [sentRev, List.length_cons] at fewer
        obtain ⟨sends, call', send_agrees⟩ := parallel.send.nextCall
          (m := final.sentRev.length - after.sentRev.length) (by rw [sentRev]; simp; omega) call
        have due := parallel.script 0 ⟨net.clock, data, destination⟩ (by
          obtain ⟨later, records⟩ := grown.sent
          simp [← records, sentRev])
        obtain ⟨elsewhere, script, -, receive, wait, create, bind, clock⟩ := parallel
        refine ⟨socket'.enqueueAll (arrivalsAt net.clock (other.script.headD []) ++ replies),
          { after with
            script := other.script.tail
            faults := { other.faults with send := sends } }, ?_, ?_, ?_⟩
        · rw [elsewhere]
          simp only [send, call', bring]
          subst ha
          rfl
        · refine ⟨?_, ?_⟩
          · rw [sockets.elsewhere]
            rfl
          · rw [← List.headD_eq_getD, ← List.headD_eq_getD] at due
            simp only [Socket.enqueueAll, Inbox.upTo_enqueueAll, sockets.inbox, List.filter_append]
            rw [due]
            rfl
        · subst ha
          refine ⟨rfl, ?_, send_agrees, receive, wait, create, bind, clock⟩
          intro k sent at_k
          have next := script (k + 1) sent (by
            rw [← at_k]
            congr 1
            simp only [List.length_cons]
            omega)
          simp only [List.getD_eq_getElem?_getD, List.getElem?_tail] at next ⊢
          exact next

/-- A datagram that is received has arrived, so that the other socket has it too. -/
theorem receive_parallel {socket : Socket} {size : Int} {datagram : Datagram} {left : Socket}
    (h : net.receive socket size = (.ok (datagram, left), after)) :
    net.Grown after ∧ ∀ {horizon final other socket'}, after.Grown final →
      net.Parallel horizon final other → socket.Parallel horizon socket' →
      (∀ first ∈ socket.inbox.head?, first.time ≤ horizon) →
      ∃ left' other', other.receive socket' size = (.ok (datagram, left'), other') ∧
        left.Parallel horizon left' ∧ after.Parallel horizon final other' := by
  rw [receive] at h
  cases call : nextCall net.faults.receive with
  | mk fault rest =>
    cases fault with
    | some reason => simp [call] at h
    | none =>
      cases waiting : socket.inbox with
      | nil => simp [call, waiting] at h
      | cons arrival inbox =>
        simp only [call, waiting, Prod.mk.injEq, Except.ok.injEq] at h
        obtain ⟨⟨rfl, rfl⟩, ha⟩ := h
        have received : after.receivedRev.length = net.receivedRev.length + 1 := by
          rw [← ha, List.length_cons]
        refine ⟨?_, ?_⟩
        · rw [← ha]
          exact ⟨List.suffix_refl _, Nat.le_succ _, Nat.le_refl _, Nat.le_refl _, Int.le_refl _,
            Int.le_refl _⟩
        · intro horizon final other socket' grown parallel sockets arrived
          have fewer := grown.received
          obtain ⟨receives, call', receive_agrees⟩ := parallel.receive.nextCall
            (m := final.receivedRev.length - after.receivedRev.length) (by omega) call
          have soon : arrival.time ≤ horizon := arrived arrival rfl
          have held := sockets.inbox
          rw [waiting, Inbox.upTo_cons, if_pos soon] at held
          obtain ⟨elsewhere, script, send, -, wait, create, bind, clock⟩ := parallel
          cases waiting' : socket'.inbox with
          | nil => simp [waiting', Inbox.upTo] at held
          | cons arrival' inbox' =>
            rw [waiting', Inbox.upTo_cons] at held
            split at held
            · obtain ⟨rfl, same⟩ := List.cons.inj held
              refine ⟨{ socket' with inbox := inbox' },
                { after with
                  script := other.script
                  faults := { other.faults with receive := receives } }, ?_, ?_, ?_⟩
              · rw [elsewhere]
                simp only [receive, call', waiting']
                subst ha
                rfl
              · refine ⟨?_, same⟩
                rw [sockets.elsewhere]
              · subst ha
                exact ⟨rfl, script, send, receive_agrees, wait, create, bind, clock⟩
            · simp at held

/-- A wait whose time can be told is decided by the next call. -/
theorem waitUntil_eq (inbox : Inbox) (deadline : Int) (faults : List (Option WaitFault))
    {remaining timeoutMs : Int} (told : waitMs? remaining = some timeoutMs) (net : Network) :
    waitUntil inbox deadline faults remaining net =
      match faults.headD none with
      | some (.interrupted ms) =>
        waitUntil inbox deadline faults.tail (max 0 (deadline - (net.clock + ms)))
          { net with waitsRev := timeoutMs :: net.waitsRev, clock := net.clock + ms }
      | some .refused =>
        (.ok false,
          { net with
            waitsRev := timeoutMs :: net.waitsRev
            faults := { net.faults with wait := faults.tail } })
      | none =>
        (.ok (inbox.await net.clock timeoutMs).1,
          { net with
            clock := (inbox.await net.clock timeoutMs).2
            waitsRev := timeoutMs :: net.waitsRev
            faults := { net.faults with wait := faults.tail } }) := by
  cases faults with
  | nil => rw [waitUntil, told]; rfl
  | cons fault faults =>
    rw [waitUntil, told]
    cases fault with
    | none => rfl
    | some fault =>
      cases fault with
      | interrupted ms => rfl
      | refused => rfl

theorem length_waitsRev_le (inbox : Inbox) (deadline : Int) (faults : List (Option WaitFault))
    (remaining : Int) (net : Network) : net.waitsRev.length ≤
      (waitUntil inbox deadline faults remaining net).2.waitsRev.length := by
  fun_induction waitUntil inbox deadline faults remaining net with
  | case1 => exact Nat.le_refl _
  | case2 remaining net timeoutMs told noted ms faults interrupted ih =>
    have noted : interrupted.waitsRev.length = net.waitsRev.length + 1 := rfl
    omega
  | case3 => exact Nat.le_succ _
  | case4 => exact Nat.le_succ _
  | case5 => exact Nat.le_succ _

/-- Two ways to wait come to the same, but for what is held for later. -/
theorem waitUntil_parallel {inbox other : Inbox} {horizon : Int}
    (same : other.upTo horizon = inbox.upTo horizon) (deadline : Int)
    (faults : List (Option WaitFault)) (remaining : Int) (net : Network)
    (script : List (List Delivery)) (others : Faults) :
    ∀ (n : Nat) (calls : List (Option WaitFault)),
      (waitUntil inbox deadline faults remaining net).2.waitsRev.length ≤ n →
      (waitUntil inbox deadline faults remaining net).2.clock ≤ horizon →
      Agree none (n - net.waitsRev.length) faults calls →
      ∃ wait,
        waitUntil other deadline calls remaining { net with script, faults := others } =
          ((waitUntil inbox deadline faults remaining net).1,
            { (waitUntil inbox deadline faults remaining net).2 with
              script, faults := { others with wait } }) ∧
          Agree none (n - (waitUntil inbox deadline faults remaining net).2.waitsRev.length)
            (waitUntil inbox deadline faults remaining net).2.faults.wait wait := by
  fun_induction waitUntil inbox deadline faults remaining net with
  | case1 faults remaining net overflow =>
    intro n calls _ _ agree
    refine ⟨calls, ?_, agree⟩
    rw [waitUntil.eq_def]
    simp only [overflow]
  | case2 remaining net timeoutMs told noted ms faults interrupted ih =>
    intro n calls long early agree
    have noted : interrupted.waitsRev.length = net.waitsRev.length + 1 := rfl
    have longer := length_waitsRev_le inbox deadline faults
      (max 0 (deadline - interrupted.clock)) interrupted
    obtain ⟨wait, same, agree'⟩ := ih n calls.tail long early (agree.tail (by omega))
    refine ⟨wait, ?_, agree'⟩
    rw [waitUntil_eq other deadline calls told, agree.head (by omega)]
    exact same
  | case3 remaining net timeoutMs told noted faults =>
    intro n calls long early agree
    have long : net.waitsRev.length + 1 ≤ n := long
    refine ⟨calls.tail, ?_, agree.tail (m := n - (net.waitsRev.length + 1)) (by omega)⟩
    rw [waitUntil_eq other deadline calls told, agree.head (by omega)]
    rfl
  | case4 remaining net timeoutMs told noted faults ready clock awaited =>
    intro n calls long early agree
    have long : net.waitsRev.length + 1 ≤ n := long
    have awaited : inbox.await net.clock timeoutMs = (ready, clock) := awaited
    have awaited' := Inbox.await_of_upTo same (by rw [awaited]; exact early)
    refine ⟨calls.tail, ?_, agree.tail (m := n - (net.waitsRev.length + 1)) (by omega)⟩
    rw [waitUntil_eq other deadline calls told, agree.head (by omega)]
    simp only [List.headD_cons, awaited', awaited]
    rfl
  | case5 remaining net timeoutMs told noted ready clock awaited =>
    intro n calls long early agree
    have long : net.waitsRev.length + 1 ≤ n := long
    have awaited : inbox.await net.clock timeoutMs = (ready, clock) := awaited
    have awaited' := Inbox.await_of_upTo same (by rw [awaited]; exact early)
    refine ⟨calls.tail, ?_, agree.tail (m := n - (net.waitsRev.length + 1)) (by omega)⟩
    rw [waitUntil_eq other deadline calls told, agree.head (by omega)]
    simp only [List.headD_nil, awaited', awaited]
    rfl

/-- A wait ends here as it does there. -/
theorem wait_parallel {socket : Socket} {timeoutMs : Int} {result : Except Failure Bool}
    (h : net.wait socket timeoutMs = (result, after)) :
    net.Grown after ∧ ∀ {horizon final other socket'}, after.Grown final →
      net.Parallel horizon final other → socket.Parallel horizon socket' →
      ∃ other', other.wait socket' timeoutMs = (result, other') ∧
        after.Parallel horizon final other' := by
  have same : net.wait socket timeoutMs = net.wait socket (max 0 timeoutMs) := by
    simp only [Network.wait, show max 0 (max 0 timeoutMs) = max 0 timeoutMs by omega]
  obtain ⟨⟨clock, waitsRev, wait, ha⟩, later, spent, -, -, -⟩ :=
    net.wait_spec socket (Int.le_max_left 0 timeoutMs) (Int.le_refl _)
  have longer := length_waitsRev_le socket.inbox (net.clock + max 0 timeoutMs) net.faults.wait
    (max 0 timeoutMs) net
  rw [← Network.wait, h] at longer
  rw [← same, h] at ha later spent
  simp only at ha later spent longer
  have grown : net.Grown after := by
    rw [ha] at later spent longer ⊢
    exact ⟨List.suffix_refl _, Nat.le_refl _, longer, Nat.le_refl _, later, spent⟩
  refine ⟨grown, ?_⟩
  intro horizon final other socket' grown' parallel sockets
  have early := parallel.early grown grown'
  obtain ⟨elsewhere, script, send, receive, waits, create, bind, bound⟩ := parallel
  rw [Network.wait] at h
  have waits' := waitUntil_parallel sockets.inbox (net.clock + max 0 timeoutMs)
    net.faults.wait (max 0 timeoutMs) net other.script other.faults
  rw [h] at waits'
  obtain ⟨calls, waited, agree⟩ := waits' _ other.faults.wait grown'.waits early waits
  refine ⟨{ after with
    script := other.script
    faults := { other.faults with wait := calls } }, ?_, ?_⟩
  · rw [elsewhere, Network.wait]
    exact waited
  · rw [ha] at agree spent ⊢
    exact ⟨rfl, script, send, receive, agree, create, bind, by simp only at spent ⊢; omega⟩

end Network

end NtpQuery
