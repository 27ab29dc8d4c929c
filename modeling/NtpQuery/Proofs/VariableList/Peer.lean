import Mathlib.Data.List.TakeWhile
import NtpQuery.Proofs.VariableList.Rendering

/-!
# The peer in a system text

The association of the peer is looked for in the text as it came: wherever
`peer=` is followed by a number for the first time. The variables are read from
segments, and the peer is what the last segment named `peer` says. The two agree
when the first mention begins a segment and no later segment is named `peer`,
with one exception: the terminator of a list takes up to two characters off its
end, and a single digit behind a blank goes with it.

`FirstMention` says where the search finds its number, `get?_peer` what is read
as the peer, and `dropTerminator_mention` what the terminator leaves of a mention.
-/

namespace NtpQuery

namespace Text

/-- The tables of digits and blanks are apart. -/
theorem isBlankOrSeparator_of_isDecimalDigit {c : Char} (digit : isDecimalDigit c = true) :
    isBlankOrSeparator c = false := by
  obtain ⟨value, read⟩ := Option.isSome_iff_exists.mp digit
  obtain ⟨first, found, -⟩ := Option.map_eq_some_iff.mp read
  have within := List.find?_some found
  have listed := List.mem_of_find?_eq_some found
  have apart : ∀ first ∈ digitZeros, 0x1F < first ∧
      ∀ range ∈ blankRanges, first + 9 < range.1 ∨ range.2 < first := by decide
  obtain ⟨high, ranges⟩ := apart first listed
  simp only [Bool.and_eq_true, decide_eq_true_eq] at within
  rw [isBlankOrSeparator, Bool.or_eq_false_iff]
  constructor
  · rw [isBlank, List.any_eq_false]
    intro range mem
    have := ranges range mem
    simp only [Bool.and_eq_true, decide_eq_true_eq]
    omega
  · simp only [Bool.and_eq_false_iff, decide_eq_false_iff_not]
    omega

theorem isBlankOrSeparator_of_isSpacing {c : Char} (spacing : isSpacing c = true) :
    isBlankOrSeparator c = true := by
  simp only [isSpacing, Bool.or_eq_true, Bool.and_eq_true, decide_eq_true_eq] at spacing
  rcases spacing with rfl | within
  · decide
  · simp [isBlankOrSeparator, isBlank, blankRanges, within]

theorem not_isSpacing_of_isDecimalDigit {c : Char} (digit : isDecimalDigit c = true) :
    isSpacing c = false := by
  cases spacing : isSpacing c with
  | false => rfl
  | true =>
    have blank := isBlankOrSeparator_of_isSpacing spacing
    rw [isBlankOrSeparator_of_isDecimalDigit digit] at blank
    exact blank.symm

/-- The first part is the beginning of the text, and all of it when there is no other part. -/
theorem split_eq_cons {separator : Char} {text first : List Char} {others : List (List Char)}
    (parts : split separator text = first :: others) :
    first <+: text ∧ (others = [] → first = text) := by
  induction text generalizing first others with
  | nil =>
    obtain ⟨rfl, rfl⟩ := List.cons.inj parts
    exact ⟨List.prefix_refl _, fun _ => rfl⟩
  | cons c text ih =>
    obtain ⟨head, tail, cut⟩ := List.exists_cons_of_ne_nil (split_ne_nil separator text)
    obtain ⟨begins, whole⟩ := ih cut
    rw [split, cut] at parts
    simp only at parts
    split at parts
    · obtain ⟨rfl, rfl⟩ := List.cons.inj parts
      exact ⟨List.nil_prefix, by simp⟩
    · obtain ⟨rfl, rfl⟩ := List.cons.inj parts
      exact ⟨(List.prefix_cons_inj c).mpr begins, fun none => by rw [whole none]⟩

end Text

namespace VariableList

/-- What stands in front of the number of a peer. -/
def mark : List Char := "peer=".toList

/-- The number that a run of digits denotes. -/
def numberOf (digits : List Char) : Nat :=
  Text.Numeral.value (digits.filterMap Text.digitValue?)

/-- A mention of a peer in a text: the mark, blanks and a number, all of its digits. -/
structure Mention (text before gap number rest : List Char) : Prop where
  whole : text = before ++ (mark ++ (gap ++ (number ++ rest)))
  gap : ∀ c ∈ gap, Text.isBlankOrSeparator c = true
  digits : ∀ c ∈ number, Text.isDecimalDigit c = true
  nonempty : number ≠ []
  rest : ∀ c ∈ rest.head?, Text.isDecimalDigit c = false

/-- A mention with no other in front of it. -/
structure FirstMention (text before gap number rest : List Char) : Prop
    extends Mention text before gap number rest where
  first : ∀ {before' gap' number' rest'}, Mention text before' gap' number' rest' →
    before.length ≤ before'.length

/-- The value of the variable `peer` starts with a number that is the given one in 16 bits. -/
def NamesPeer (known : Mapping String String) (association : Nat) : Prop :=
  ∃ value, known.get? "sys.peer" = some value ∧ leadingDigits value.toList ≠ [] ∧
    Text.Numeral.value (leadingDigits value.toList) % 65536 = association

instance (known : Mapping String String) (association : Nat) :
    Decidable (NamesPeer known association) :=
  decidable_of_iff
    (((known.get? "sys.peer").any fun value =>
      decide (leadingDigits value.toList ≠ [] ∧
        Text.Numeral.value (leadingDigits value.toList) % 65536 = association)) = true)
    (by simp [NamesPeer, Option.any_eq_true])

/-! ### The first mention -/

theorem leadingDigits_append {gap number rest : List Char}
    (blank : ∀ c ∈ gap, Text.isBlankOrSeparator c = true)
    (digits : ∀ c ∈ number, Text.isDecimalDigit c = true)
    (stops : ∀ c ∈ rest.head?, Text.isDecimalDigit c = false) (nonempty : number ≠ []) :
    leadingDigits (gap ++ (number ++ rest)) = number.filterMap Text.digitValue? := by
  have begins : (number ++ rest).dropWhile Text.isBlankOrSeparator = number ++ rest := by
    cases number with
    | nil => exact absurd rfl nonempty
    | cons c number =>
      have digit := digits c List.mem_cons_self
      rw [List.cons_append, List.dropWhile_cons_of_neg]
      rw [Text.isBlankOrSeparator_of_isDecimalDigit digit]
      decide
  have ends : rest.takeWhile Text.isDecimalDigit = [] := by
    cases rest with
    | nil => rfl
    | cons c rest => rw [List.takeWhile_cons_of_neg (by simp [stops c rfl])]
  rw [leadingDigits, List.dropWhile_append_of_pos blank, begins,
    List.takeWhile_append_of_pos digits, ends, List.append_nil]

theorem leadingDigits_blank {gap : List Char}
    (blank : ∀ c ∈ gap, Text.isBlankOrSeparator c = true) : leadingDigits gap = [] := by
  rw [leadingDigits, List.dropWhile_eq_nil_iff.mpr blank]
  rfl

/-- Every digit has a value. -/
theorem filterMap_digitValue?_ne_nil {number : List Char}
    (digits : ∀ c ∈ number, Text.isDecimalDigit c = true) (nonempty : number ≠ []) :
    number.filterMap Text.digitValue? ≠ [] := by
  cases number with
  | nil => exact absurd rfl nonempty
  | cons c number =>
    obtain ⟨value, read⟩ := Option.isSome_iff_exists.mp (digits c List.mem_cons_self)
    rw [List.filterMap_cons_some read]
    exact List.cons_ne_nil _ _

variable {text before gap number rest : List Char}

theorem Mention.leadingDigits (mention : Mention text before gap number rest) :
    VariableList.leadingDigits (gap ++ (number ++ rest)) = number.filterMap Text.digitValue? :=
  leadingDigits_append mention.gap mention.digits mention.rest mention.nonempty

/-- Where digits follow the mark, a peer is mentioned. -/
theorem mention_of_leadingDigits {behind : List Char}
    (found : VariableList.leadingDigits behind ≠ []) :
    ∃ gap number rest, Mention (mark ++ behind) [] gap number rest := by
  refine ⟨behind.takeWhile Text.isBlankOrSeparator,
    (behind.dropWhile Text.isBlankOrSeparator).takeWhile Text.isDecimalDigit,
    (behind.dropWhile Text.isBlankOrSeparator).dropWhile Text.isDecimalDigit,
    ?_, fun c => List.mem_takeWhile_imp, fun c => List.mem_takeWhile_imp, ?_, ?_⟩
  · rw [List.takeWhile_append_dropWhile, List.takeWhile_append_dropWhile, List.nil_append]
  · intro none
    rw [VariableList.leadingDigits, none] at found
    exact found rfl
  · intro c head
    have stops := List.head?_dropWhile_not Text.isDecimalDigit
      (behind.dropWhile Text.isBlankOrSeparator)
    rw [Option.mem_def] at head
    rw [head] at stops
    simpa using stops

theorem drop_eq_of_mark {c : Char} {text behind : List Char} (whole : c :: text = mark ++ behind) :
    text.drop 4 = behind := by
  rw [← List.drop_succ_cons (a := c), whole]
  rfl

/-- What makes the search stop at a character. -/
theorem mention_iff {c : Char} {text : List Char} :
    ("peer=".toList.isPrefixOf (c :: text) && !(VariableList.leadingDigits (text.drop 4)).isEmpty) =
        true ↔
      ∃ gap number rest, Mention (c :: text) [] gap number rest := by
  rw [Bool.and_eq_true, List.isPrefixOf_iff_prefix, Bool.not_eq_true', List.isEmpty_eq_false_iff]
  constructor
  · rintro ⟨⟨behind, whole⟩, found⟩
    rw [drop_eq_of_mark whole.symm] at found
    rw [← whole]
    exact mention_of_leadingDigits found
  · rintro ⟨gap, number, rest, mention⟩
    refine ⟨⟨_, mention.whole.symm⟩, ?_⟩
    rw [drop_eq_of_mark mention.whole, mention.leadingDigits]
    exact filterMap_digitValue?_ne_nil mention.digits mention.nonempty

/-- The search finds the digits of the first mention. -/
theorem firstMention_of_peerDigits? {digits : List Nat} (h : peerDigits? text = some digits) :
    ∃ before gap number rest, FirstMention text before gap number rest ∧
      digits = number.filterMap Text.digitValue? := by
  induction text with
  | nil => simp [peerDigits?] at h
  | cons c text ih =>
    rw [peerDigits?] at h
    split at h
    · rename_i here
      obtain ⟨gap, number, rest, mention⟩ := mention_iff.mp here
      refine ⟨[], gap, number, rest, ⟨mention, fun _ => Nat.zero_le _⟩, ?_⟩
      rw [drop_eq_of_mark mention.whole, mention.leadingDigits] at h
      exact (Option.some.inj h).symm
    · rename_i elsewhere
      obtain ⟨before, gap, number, rest, ⟨mention, first⟩, same⟩ := ih h
      refine ⟨c :: before, gap, number, rest, ⟨⟨?_, mention.gap, mention.digits, mention.nonempty,
        mention.rest⟩, ?_⟩, same⟩
      · rw [mention.whole, List.cons_append]
      · intro before' gap' number' rest' other
        cases before' with
        | nil => exact absurd (mention_iff.mpr ⟨gap', number', rest', other⟩) elsewhere
        | cons d before' =>
          have whole := (List.cons.inj other.whole).2
          have later : Mention text before' gap' number' rest' :=
            ⟨whole, other.gap, other.digits, other.nonempty, other.rest⟩
          exact Nat.succ_le_succ (first later)

/-- All first mentions have the same number. -/
theorem FirstMention.numberOf_eq {before' gap' number' rest' : List Char}
    (mention : FirstMention text before gap number rest)
    (mention' : FirstMention text before' gap' number' rest') :
    numberOf number = numberOf number' := by
  have place : before.length = before'.length :=
    Nat.le_antisymm (mention.first mention'.toMention) (mention'.first mention.toMention)
  have whole := mention.whole.symm.trans mention'.whole
  have behind := List.append_cancel_left (List.append_inj_right whole place)
  have digits := mention.toMention.leadingDigits
  rw [behind, mention'.toMention.leadingDigits] at digits
  rw [numberOf, numberOf, digits]

/-- The association is the number of the first mention in 16 bits. -/
theorem firstMention_of_peerAssociation? {text : String} {association : Nat}
    (found : peerAssociation? text = some (some association)) :
    ∃ before gap number rest, FirstMention text.toList before gap number rest ∧
      numberOf number % 65536 = association := by
  rw [peerAssociation?] at found
  split at found
  · simp at found
  · rename_i digits searched
    obtain ⟨before, gap, number, rest, mention, rfl⟩ := firstMention_of_peerDigits? searched
    refine ⟨before, gap, number, rest, mention, ?_⟩
    obtain ⟨n, read, reduced⟩ := Option.map_eq_some_iff.mp found
    rw [Text.Numeral.ofDigits?] at read
    split at read
    · simp at read
    · obtain rfl := Option.some.inj read
      split at reduced
      · simp at reduced
      · exact Option.some.inj reduced

/-! ### The variable -/

theorem key_eq_peer {name : List Char} : key "sys" name = "sys.peer" ↔ name = "peer".toList := by
  constructor
  · intro same
    have cut : ("sys".toList ++ '.' :: name).take maxKeyLength =
        "sys".toList ++ '.' :: "peer".toList := by
      rw [← @String.toList_ofList (List.take _ _)]
      exact congrArg String.toList same
    have size := congrArg List.length cut
    have whole : ("sys".toList ++ '.' :: name).length ≤ maxKeyLength := by
      rw [List.length_take] at size
      simp only [maxKeyLength] at size ⊢
      have eight : ("sys".toList ++ '.' :: "peer".toList).length = 8 := rfl
      omega
    rw [List.take_of_length_le whole] at cut
    exact (List.cons.inj (List.append_cancel_left cut)).2
  · rintro rfl
    rfl

/-- The entry of a segment is that of the peer when the segment begins with the mark. -/
theorem assignment?_eq_peer {segment : List Char} {value : String} :
    assignment? "sys" segment = some ("sys.peer", value) ↔ segment = mark ++ value.toList := by
  constructor
  · intro assigned
    have equals : '=' ∈ segment := by
      by_contra absent
      simp [assignment?, absent] at assigned
    obtain ⟨name, behind, rfl, absent⟩ := List.eq_append_cons_of_mem equals
    rw [assignment?_append "sys" behind absent, Option.some.injEq, Prod.mk.injEq,
      key_eq_peer] at assigned
    obtain ⟨rfl, rfl⟩ := assigned
    exact congrArg (mark ++ ·) String.toList_ofList.symm
  · rintro rfl
    have named := assignment?_append "sys" value.toList (by decide : '=' ∉ "peer".toList)
    rwa [String.ofList_toList, key_eq_peer.mpr rfl] at named

/-- What is read as the peer is what the last segment with the mark says. -/
theorem get?_peer {text : String} {value : List Char} :
    (read text "sys" []).get? "sys.peer" = some (String.ofList value) ↔
      ∃ earlier later, trimmed (Text.split ',' text.toList) = earlier ++ (mark ++ value) :: later ∧
        ∀ segment ∈ later, ¬ mark <+: segment := by
  rw [read, Mapping.get?_putAll, Mapping.get?_nil, Option.or_none, entries,
    Mapping.get?_filterMap_eq_some]
  constructor
  · rintro ⟨earlier, segment, later, parts, assigned, last⟩
    obtain rfl := assignment?_eq_peer.mp assigned
    rw [String.toList_ofList] at parts
    refine ⟨earlier, later, parts, ?_⟩
    rintro _ mem ⟨behind, rfl⟩
    apply last _ mem (String.ofList behind)
    rw [assignment?_eq_peer, String.toList_ofList]
  · rintro ⟨earlier, later, parts, last⟩
    refine ⟨earlier, mark ++ value, later, parts, ?_, ?_⟩
    · rw [assignment?_eq_peer, String.toList_ofList]
    · intro other mem value' assigned
      rw [assignment?_eq_peer] at assigned
      exact last other mem ⟨_, assigned.symm⟩

/-! ### The terminator -/

theorem dropTerminator_append_pair (front : List Char) (previous last : Char) :
    dropTerminator (front ++ [previous, last]) =
      if Text.isSpacing previous then front
      else if Text.isSpacing last then front ++ [previous]
      else front ++ [previous, last] := by
  simp [dropTerminator]

theorem prefix_dropTerminator (segment : List Char) : dropTerminator segment <+: segment := by
  rcases List.eq_nil_or_concat' segment with rfl | ⟨front, last, rfl⟩
  · exact List.prefix_refl _
  · rcases List.eq_nil_or_concat' front with rfl | ⟨front, previous, rfl⟩
    · simp only [dropTerminator, List.nil_append, List.reverse_singleton]
      split
      · exact List.nil_prefix
      · exact List.prefix_refl _
    · rw [List.append_assoc, List.singleton_append, dropTerminator_append_pair]
      split
      · exact List.prefix_append _ _
      · split
        · exact ⟨[last], by simp⟩
        · exact List.prefix_refl _

/-- A number that goes with the terminator: a single digit at the end, behind a blank. -/
def Exposed (gap number rest : List Char) : Prop :=
  rest = [] ∧ number.length = 1 ∧ gap.getLast?.any Text.isSpacing = true

instance (gap number rest : List Char) : Decidable (Exposed gap number rest) :=
  inferInstanceAs (Decidable (_ ∧ _ ∧ _))

theorem dropTerminator_of_exposed (exposed : Exposed gap number rest) :
    dropTerminator (mark ++ (gap ++ (number ++ rest))) = mark ++ gap.dropLast := by
  obtain ⟨rfl, single, behind⟩ := exposed
  obtain ⟨last, ends, spacing⟩ := (Option.any_eq_true _ _).mp behind
  obtain ⟨digit, rfl⟩ := List.length_eq_one_iff.mp single
  have parts := List.dropLast_append_getLast? last ends
  have whole : mark ++ (gap ++ ([digit] ++ [])) = (mark ++ gap.dropLast) ++ [last, digit] := by
    conv_lhs => rw [← parts]
    simp
  rw [whole, dropTerminator_append_pair, if_pos spacing]

/-- Every other number is left whole. -/
theorem dropTerminator_of_not_exposed (digits : ∀ c ∈ number, Text.isDecimalDigit c = true)
    (nonempty : number ≠ []) (hidden : ¬ Exposed gap number rest) :
    ∃ kept, kept <+: rest ∧
      dropTerminator (mark ++ (gap ++ (number ++ rest))) = mark ++ (gap ++ (number ++ kept)) := by
  obtain ⟨high, digit, rfl⟩ := (List.eq_nil_or_concat' number).resolve_left nonempty
  have visible : Text.isSpacing digit = false :=
    Text.not_isSpacing_of_isDecimalDigit (digits digit (by simp))
  -- The terminator is looked for in the last two characters, so the cases are what stands there.
  rcases List.eq_nil_or_concat' rest with rfl | ⟨front, last, rfl⟩
  · refine ⟨[], List.prefix_refl _, ?_⟩
    rcases List.eq_nil_or_concat' high with rfl | ⟨high, other, rfl⟩
    · rcases List.eq_nil_or_concat' gap with rfl | ⟨gap, blank, rfl⟩
      · have whole : mark ++ ([] ++ (([] ++ [digit]) ++ [])) = "peer".toList ++ ['=', digit] := rfl
        have equals : Text.isSpacing '=' = false := by decide
        rw [whole, dropTerminator_append_pair]
        simp [equals, visible]
      · have kept : Text.isSpacing blank = false := by
          by_contra spacing
          exact hidden ⟨rfl, rfl, by simpa using spacing⟩
        have whole : mark ++ ((gap ++ [blank]) ++ (([] ++ [digit]) ++ [])) =
            (mark ++ gap) ++ [blank, digit] := by simp
        rw [whole, dropTerminator_append_pair]
        simp [kept, visible]
    · have before : Text.isSpacing other = false :=
        Text.not_isSpacing_of_isDecimalDigit (digits other (by simp))
      have whole : mark ++ (gap ++ ((high ++ [other] ++ [digit]) ++ [])) =
          (mark ++ gap ++ high) ++ [other, digit] := by simp
      rw [whole, dropTerminator_append_pair]
      simp [before, visible]
  · rcases List.eq_nil_or_concat' front with rfl | ⟨front, previous, rfl⟩
    · have whole : mark ++ (gap ++ ((high ++ [digit]) ++ ([] ++ [last]))) =
          (mark ++ gap ++ high) ++ [digit, last] := by simp
      rw [whole, dropTerminator_append_pair, if_neg (by simp [visible])]
      split
      · exact ⟨[], List.nil_prefix, by simp⟩
      · exact ⟨[last], List.prefix_refl _, by simp⟩
    · have whole : mark ++ (gap ++ ((high ++ [digit]) ++ (front ++ [previous] ++ [last]))) =
          (mark ++ gap ++ high ++ [digit] ++ front) ++ [previous, last] := by simp
      rw [whole, dropTerminator_append_pair]
      split
      · exact ⟨front, ⟨[previous, last], by simp⟩, by simp⟩
      · split
        · exact ⟨front ++ [previous], List.prefix_append _ _, by simp⟩
        · exact ⟨_, List.prefix_refl _, by simp⟩

/-! ### The segment of the first mention -/

/-- What stands in front of a segment as it is read: nothing, or a comma and blanks. -/
def StartsSegment (before : List Char) : Prop :=
  before = [] ∨ ∃ earlier gap, before = earlier ++ ',' :: gap ∧ ∀ c ∈ gap, Text.isSpacing c = true

/-- No later segment is named `peer`. -/
def NoLaterPeer (rest : List Char) : Prop :=
  ∀ segment ∈ (Text.split ',' rest).tail, ¬ mark <+: dropSpacing segment

instance (rest : List Char) : Decidable (NoLaterPeer rest) :=
  inferInstanceAs
    (Decidable (∀ segment ∈ (Text.split ',' rest).tail, ¬ mark <+: dropSpacing segment))

/-- A segment without the terminator when it is the last one. -/
def ended (segment : List Char) (others : List (List Char)) : List Char :=
  if others.isEmpty then dropTerminator segment else segment

theorem trimLater_cons (segment : List Char) (others : List (List Char)) :
    trimLater (segment :: others) = ended (dropSpacing segment) others :: trimLater others := by
  cases others with
  | nil => rfl
  | cons other others => rfl

theorem trimmed_cons (segment : List Char) (others : List (List Char)) :
    trimmed (segment :: others) = ended segment others :: trimLater others := by
  cases others with
  | nil => rfl
  | cons other others => rfl

theorem trimLater_append (front others : List (List Char)) :
    ∃ read, trimLater (front ++ others) = read ++ trimLater others := by
  induction front with
  | nil => exact ⟨[], rfl⟩
  | cons segment front ih =>
    obtain ⟨read, same⟩ := ih
    refine ⟨ended (dropSpacing segment) (front ++ others) :: read, ?_⟩
    rw [List.cons_append, trimLater_cons, same, List.cons_append]

/-- Later segments begin with the mark only when they did before their end was cut off. -/
theorem not_mark_of_mem_trimLater {others : List (List Char)}
    (none : ∀ segment ∈ others, ¬ mark <+: dropSpacing segment) :
    ∀ segment ∈ trimLater others, ¬ mark <+: segment := by
  induction others with
  | nil => simp [trimLater]
  | cons other others ih =>
    rw [trimLater_cons]
    intro segment mem marked
    rcases List.mem_cons.mp mem with rfl | mem
    · apply none other List.mem_cons_self
      rw [ended] at marked
      split at marked
      · exact marked.trans (prefix_dropTerminator _)
      · exact marked
    · exact ih (fun other mem => none other (List.mem_cons_of_mem _ mem)) segment mem marked

/-- Where a segment starts, it is read without what stands in front of it. -/
theorem trimmed_split {before tail segment : List Char} {others : List (List Char)}
    (starts : StartsSegment before) (visible : ∀ c ∈ segment.head?, Text.isSpacing c = false)
    (parts : Text.split ',' tail = segment :: others) :
    ∃ front, trimmed (Text.split ',' (before ++ tail)) =
      front ++ ended segment others :: trimLater others := by
  rcases starts with rfl | ⟨earlier, gap, rfl, blank⟩
  · exact ⟨[], by rw [List.nil_append, parts, trimmed_cons, List.nil_append]⟩
  · have comma : ',' ∉ gap := fun mem => absurd (blank ',' mem) (by decide)
    obtain ⟨first, more, cut⟩ := List.exists_cons_of_ne_nil (Text.split_ne_nil ',' earlier)
    obtain ⟨read, same⟩ := trimLater_append more ((gap ++ segment) :: others)
    refine ⟨ended first (more ++ (gap ++ segment) :: others) :: read, ?_⟩
    rw [List.append_assoc, List.cons_append, Text.split_append_cons, cut, split_append comma parts,
      List.cons_append, trimmed_cons, same, trimLater_cons, dropSpacing_append blank visible,
      List.cons_append]

theorem comma_not_mem_mention (mention : Mention text before gap number rest) :
    ',' ∉ mark ++ (gap ++ number) := by
  have comma : Text.isBlankOrSeparator ',' = false ∧ Text.isDecimalDigit ',' = false := by decide
  simp only [List.mem_append, not_or]
  refine ⟨by decide, ?_, ?_⟩
  · intro mem
    rw [mention.gap ',' mem] at comma
    exact absurd comma.1 (by decide)
  · intro mem
    rw [mention.digits ',' mem] at comma
    exact absurd comma.2 (by decide)

/-- A mention that begins the last segment named `peer` is what is read as the peer, up to what the
terminator takes off. -/
theorem get?_peer_of_mention {text : String}
    (mention : Mention text.toList before gap number rest) (starts : StartsSegment before)
    (last : NoLaterPeer rest) :
    ∃ value, (read text "sys" []).get? "sys.peer" = some (String.ofList value) ∧
      ((Exposed gap number rest ∧ value = gap.dropLast) ∨
        (¬ Exposed gap number rest ∧
          ∃ kept, kept <+: rest ∧ value = gap ++ (number ++ kept))) := by
  obtain ⟨first, others, cut⟩ := List.exists_cons_of_ne_nil (Text.split_ne_nil ',' rest)
  obtain ⟨begins, whole⟩ := Text.split_eq_cons cut
  have parts := split_append (comma_not_mem_mention mention) cut
  rw [NoLaterPeer, cut, List.tail_cons] at last
  obtain ⟨front, read⟩ := trimmed_split starts (by rintro _ ⟨⟩; decide) parts
  rw [List.append_assoc, List.append_assoc, List.append_assoc, List.append_assoc,
    ← mention.whole] at read
  have none := not_mark_of_mem_trimLater last
  suffices left : ∃ value, ended (mark ++ (gap ++ (number ++ first))) others = mark ++ value ∧
      ((Exposed gap number rest ∧ value = gap.dropLast) ∨
        (¬ Exposed gap number rest ∧ ∃ kept, kept <+: rest ∧ value = gap ++ (number ++ kept))) by
    obtain ⟨value, same, told⟩ := left
    refine ⟨value, get?_peer.mpr ⟨front, trimLater others, ?_, none⟩, told⟩
    rw [read, same]
  cases others with
  | nil =>
    obtain rfl := whole rfl
    by_cases exposed : Exposed gap number first
    · exact ⟨gap.dropLast, dropTerminator_of_exposed exposed, .inl ⟨exposed, rfl⟩⟩
    · obtain ⟨kept, short, same⟩ :=
        dropTerminator_of_not_exposed mention.digits mention.nonempty exposed
      exact ⟨_, same, .inr ⟨exposed, kept, short, rfl⟩⟩
  | cons other others =>
    have hidden : ¬ Exposed gap number rest := by
      rintro ⟨rfl, -⟩
      simp at cut
    exact ⟨_, rfl, .inr ⟨hidden, first, begins, rfl⟩⟩

theorem namesPeer_iff {known : Mapping String String} {value : List Char} {association : Nat}
    (found : known.get? "sys.peer" = some (String.ofList value)) :
    NamesPeer known association ↔ leadingDigits value ≠ [] ∧
      Text.Numeral.value (leadingDigits value) % 65536 = association := by
  simp [NamesPeer, found]

/-- The variables name the peer that is mentioned, unless its number goes with the terminator. -/
theorem namesPeer_of_mention {text : String}
    (mention : Mention text.toList before gap number rest) (starts : StartsSegment before)
    (last : NoLaterPeer rest) :
    NamesPeer (read text "sys" []) (numberOf number % 65536) ↔ ¬ Exposed gap number rest := by
  obtain ⟨value, found, left⟩ := get?_peer_of_mention mention starts last
  rw [namesPeer_iff found]
  rcases left with ⟨exposed, rfl⟩ | ⟨hidden, kept, ⟨more, rest_eq⟩, rfl⟩
  · have blank := leadingDigits_blank fun c mem => mention.gap c (List.dropLast_subset gap mem)
    simp [blank, exposed]
  · have stops : ∀ c ∈ kept.head?, Text.isDecimalDigit c = false := by
      intro c head
      apply mention.rest
      rw [← rest_eq, List.head?_append, head]
      rfl
    have digits := leadingDigits_append mention.gap mention.digits stops mention.nonempty
    have some := filterMap_digitValue?_ne_nil mention.digits mention.nonempty
    simp [digits, some, numberOf, hidden]

/-- A list names as its peer what its last segment with the mark says. -/
theorem namesPeer_read {text : String} {association : Nat} :
    NamesPeer (read text "sys" []) association ↔
      ∃ earlier value later,
        trimmed (Text.split ',' text.toList) = earlier ++ (mark ++ value) :: later ∧
          (∀ segment ∈ later, ¬ mark <+: segment) ∧ leadingDigits value ≠ [] ∧
            Text.Numeral.value (leadingDigits value) % 65536 = association := by
  constructor
  · rintro ⟨value, found, named⟩
    rw [← String.ofList_toList (s := value)] at found
    obtain ⟨earlier, later, parts, last⟩ := get?_peer.mp found
    exact ⟨earlier, value.toList, later, parts, last, named⟩
  · rintro ⟨earlier, value, later, parts, last, named⟩
    exact (namesPeer_iff (get?_peer.mpr ⟨earlier, later, parts, last⟩)).mpr named

end VariableList

end NtpQuery
