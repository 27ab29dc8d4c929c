import NtpQuery.Proofs.Client.FollowUp
import NtpQuery.Proofs.Client.Transcript
import NtpQuery.Proofs.VariableList.Peer

/-!
# Which peer is asked

A status query asks the peer that the search of the server's text finds, and
returns the variables that are read from the same text. `readers_of_peer` says
when the two mean the same peer. They do for the lists that servers write, in
which `peer` is a variable of its own and stands there once; in any other text
the search may find a number that the variables do not show.
-/

namespace NtpQuery

namespace VariableList

/-- What is read of the peer stands in the variables of the server. -/
theorem namesPeer_statusVariables (systemText peerText : String) (association : Nat) :
    NamesPeer (Client.statusVariables systemText peerText) association ↔
      NamesPeer (read systemText "sys" []) association := by
  have other : "sys.peer" ∉ (read peerText "peer" []).keys := by
    intro mem
    exact absurd (inGroup_of_mem_read (by decide) mem) (by decide)
  rw [NamesPeer, NamesPeer, Client.statusVariables_eq, Mapping.get?_append,
    Mapping.get?_eq_none_of_not_mem other, Option.or_none]

end VariableList

namespace Client

open VariableList

/-- The text in which a server tells its variables to a status query; none when the query is
refused or nobody answers. -/
def systemText? (client : Client) (request : Request) : Option String :=
  match client.accept request with
  | .error _ => none
  | .ok (budget, destination) =>
    ((client.start .status budget destination).fetchVariables budget destination 0).1.toOption.map
      fun answer => answer.packet.text

variable {client : Client} {request : Request}

/-- A peer is asked when the search finds it in the server's text. -/
theorem systemText?_of_peer {inquiry : Inquiry} {association : Nat}
    (mem : inquiry ∈ client.statusInquiries request)
    (subject : inquiry.subject = .peer association) :
    ∃ text, client.systemText? request = some text ∧
      peerAssociation? text = some (some association) := by
  cases accepted : client.accept request with
  | error failure => simp [statusInquiries, accepted] at mem
  | ok query =>
    obtain ⟨budget, destination⟩ := query
    simp only [statusInquiries, accepted] at mem
    rcases List.mem_cons.mp mem with rfl | mem
    · simp at subject
    · cases fetched :
          ((client.start .status budget destination).fetchVariables budget destination 0).1 with
      | error failure => simp [fetched] at mem
      | ok answer =>
        refine ⟨answer.packet.text, ?_, ?_⟩
        · simp only [systemText?, accepted, fetched, Except.toOption, Option.map_some]
        · rw [fetched] at mem
          simp only [followUpInquiries] at mem
          split at mem
          · rename_i found
            rw [List.mem_singleton.mp mem] at subject
            obtain rfl := Subject.peer.inj subject
            exact found
          · simp at mem

/-- A status query returns what is read from the server's text. -/
theorem namesPeer_queryStatus {known : Mapping String String} {text : String}
    (told : client.systemText? request = some text)
    (returned : (client.queryStatus request).1 = .ok known) (association : Nat) :
    NamesPeer known association ↔ NamesPeer (read text "sys" []) association := by
  have course := statusCourse_queryStatus client request
  generalize client.queryStatus request = result at course returned
  cases course with
  | refused => simp at returned
  | unanswered => simp at returned
  | unfinished => simp at returned
  | @answered budget destination answer peerText next last accepted fetched followed =>
    obtain rfl := Except.ok.inj returned
    simp only [systemText?, accepted, fetched, Except.toOption, Option.map_some,
      Option.some.injEq] at told
    rw [namesPeer_statusVariables, told]

/-- The two readers of a text. What the search finds is the number of the first mention. What the
variables name is the number with which the last segment named `peer` begins. So the variables name
the association that is found when the first mention begins a segment and no later segment is named
`peer`, unless the number is a single digit that goes with the terminator. A follow-up is made only
for the association that is found in the text from which the variables are read. -/
theorem readers_of_peer :
    (∀ text association, peerAssociation? text = some (some association) →
      (∃ before gap number rest, FirstMention text.toList before gap number rest) ∧
        ∀ before gap number rest, FirstMention text.toList before gap number rest →
          numberOf number % 65536 = association ∧
            (StartsSegment before → NoLaterPeer rest →
              (NamesPeer (read text "sys" []) association ↔ ¬ Exposed gap number rest))) ∧
    (∀ text association, NamesPeer (read text "sys" []) association ↔
      ∃ earlier value later,
        trimmed (Text.split ',' text.toList) = earlier ++ (mark ++ value) :: later ∧
          (∀ segment ∈ later, ¬ mark <+: segment) ∧ leadingDigits value ≠ [] ∧
            Text.Numeral.value (leadingDigits value) % 65536 = association) ∧
    (∀ (client : Client) (request : Request), ∀ inquiry ∈ client.statusInquiries request,
      ∀ association, inquiry.subject = .peer association →
        ∃ text, client.systemText? request = some text ∧
          peerAssociation? text = some (some association) ∧
            ∀ known, (client.queryStatus request).1 = .ok known → ∀ named,
              NamesPeer known named ↔ NamesPeer (read text "sys" []) named) := by
  refine ⟨?_, fun text association => namesPeer_read, ?_⟩
  · intro text association found
    obtain ⟨before, gap, number, rest, first, same⟩ := firstMention_of_peerAssociation? found
    refine ⟨⟨before, gap, number, rest, first⟩, ?_⟩
    intro before' gap' number' rest' first'
    have number_eq : numberOf number' % 65536 = association := by
      rw [first'.numberOf_eq first, same]
    refine ⟨number_eq, ?_⟩
    intro starts last
    rw [← number_eq]
    exact namesPeer_of_mention first'.toMention starts last
  · intro client request inquiry mem association subject
    obtain ⟨text, told, found⟩ := systemText?_of_peer mem subject
    exact ⟨text, told, found, fun known returned => namesPeer_queryStatus told returned⟩

/-- A server that lists its peer as a variable: the one it names is the one that is asked. -/
theorem readers_of_peer_listed :
    let text := "peer=4242, stratum=2\r\n"
    let endpoint : Endpoint := ⟨"127.0.0.1", 12300⟩
    let client := Client.onNetwork
      { station := some { endpoint, config := { systemText := text } } } none
    let request : Request := { host := "127.0.0.1", port := 12300 }
    (peerAssociation? text = some (some 4242) ∧ NamesPeer (read text "sys" []) 4242) ∧
      (∃ earlier value later,
        trimmed (Text.split ',' text.toList) = earlier ++ (mark ++ value) :: later) ∧
      ∃ inquiry ∈ client.statusInquiries request, inquiry.subject = .peer 4242 ∧
        ∃ known, (client.queryStatus request).1 = .ok known ∧ NamesPeer known 4242 := by
  intro text endpoint client request
  obtain ⟨searched, listed, followed⟩ := readers_of_peer
  have found : peerAssociation? text = some (some 4242) := by decide +kernel
  have digits : "4242".toList.all Text.isDecimalDigit = true := by decide +kernel
  have comma : Text.isDecimalDigit ',' = false := by decide +kernel
  have first : FirstMention text.toList [] [] "4242".toList ", stratum=2\r\n".toList :=
    ⟨⟨by decide, by simp, List.all_eq_true.mp digits, by decide, by rintro _ ⟨⟩; exact comma⟩,
      fun _ => Nat.zero_le _⟩
  have named : NamesPeer (read text "sys" []) 4242 :=
    (((searched text 4242 found).2 _ _ _ _ first).2 (.inl rfl) (by decide +kernel)).mpr
      (by decide +kernel)
  obtain ⟨earlier, value, later, parts, -⟩ := (listed text 4242).mp named
  have asked : Subject.peer 4242 ∈ (client.statusInquiries request).map Inquiry.subject := by
    decide +kernel
  obtain ⟨inquiry, mem, subject⟩ := List.mem_map.mp asked
  obtain ⟨told, same, -, kept⟩ := followed client request inquiry mem 4242 subject
  have own : client.systemText? request = some text := by decide +kernel
  obtain rfl := Option.some.inj (own.symm.trans same)
  have answered : (client.queryStatus request).1.toBool = true := by decide +kernel
  refine ⟨⟨found, named⟩, ⟨earlier, value, later, parts⟩, inquiry, mem, subject, ?_⟩
  cases returned : (client.queryStatus request).1 with
  | error failure => simp [returned, Except.toBool] at answered
  | ok known => exact ⟨known, rfl, (kept known returned 4242).mpr named⟩

/-- Texts in which the search finds a number that the variables do not name: behind a name that ends
alike, in front of a later value, behind a blank that the first segment keeps, and where the number
goes with the terminator. For the first of them association 5 is asked as well. -/
theorem readers_of_peer_apart :
    (∀ text ∈ ["xpeer=5", "peer=5, peer=6", " peer=5", "peer= 5"],
      peerAssociation? text = some (some 5) ∧ ¬ NamesPeer (read text "sys" []) 5) ∧
    let endpoint : Endpoint := ⟨"127.0.0.1", 12300⟩
    let client := Client.onNetwork
      { station := some { endpoint, config := { systemText := "xpeer=5" } } } none
    let request : Request := { host := "127.0.0.1", port := 12300 }
    (client.statusInquiries request).map Inquiry.subject = [.server, .peer 5] ∧
      (client.queryStatus request).1.toOption = some [("sys.xpeer", "5")] := by
  decide +kernel

end Client

end NtpQuery
