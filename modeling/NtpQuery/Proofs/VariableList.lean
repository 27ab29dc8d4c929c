import NtpQuery.Proofs.Mapping
import NtpQuery.VariableList

/-!
# What variable lists say

A text names a peer by digits, and there are never more digits than
characters. So the number can be read whenever the text is no longer than the
longest numeral, whatever it contains.

The key of a variable begins with its group, whatever its name and its length.
Variables of one group are therefore never written over those of another, and
go behind them.
-/

namespace NtpQuery.VariableList

theorem length_leadingDigits_le (text : List Char) :
    (leadingDigits text).length ≤ text.length := by
  have filtered := List.length_filterMap_le Text.digitValue?
    ((text.dropWhile Text.isBlankOrSeparator).takeWhile Text.isDecimalDigit)
  have taken := (List.takeWhile_prefix (l := text.dropWhile Text.isBlankOrSeparator)
    Text.isDecimalDigit).length_le
  have dropped := (List.dropWhile_suffix (l := text) Text.isBlankOrSeparator).length_le
  exact Nat.le_trans filtered (Nat.le_trans taken dropped)

theorem peerDigits?_spec {text : List Char} {digits : List Nat}
    (h : peerDigits? text = some digits) : digits ≠ [] ∧ digits.length ≤ text.length := by
  induction text with
  | nil => simp [peerDigits?] at h
  | cons c rest ih =>
    rw [peerDigits?] at h
    split at h
    · rename_i found
      obtain rfl := Option.some.inj h
      simp only [Bool.and_eq_true, Bool.not_eq_true', List.isEmpty_eq_false_iff] at found
      refine ⟨found.2, ?_⟩
      have digits := length_leadingDigits_le (rest.drop 4)
      simp only [List.length_drop, List.length_cons] at digits ⊢
      omega
    · obtain ⟨nonempty, short⟩ := ih h
      exact ⟨nonempty, Nat.le_succ_of_le short⟩

theorem peerAssociation?_isSome {text : String}
    (short : text.toList.length ≤ Text.Numeral.maxDigits) : (peerAssociation? text).isSome := by
  rw [peerAssociation?]
  split
  · rfl
  · rename_i digits found
    obtain ⟨nonempty, few⟩ := peerDigits?_spec found
    have fits : ¬ Text.Numeral.maxDigits < digits.length := by omega
    simp [Text.Numeral.ofDigits?, nonempty, fits]

theorem peerAssociation?_range {text : String} {association : Nat}
    (h : peerAssociation? text = some (some association)) :
    0 < association ∧ association < 65536 := by
  rw [peerAssociation?] at h
  split at h
  · simp at h
  · rename_i digits found
    obtain ⟨n, -, reduced⟩ := Option.map_eq_some_iff.mp h
    split at reduced
    · simp at reduced
    · obtain rfl := Option.some.inj reduced
      exact ⟨by omega, Nat.mod_lt n (by decide)⟩

/-- Whether a key is one of a group. -/
def inGroup (group key : String) : Bool :=
  (group.toList ++ ['.']).isPrefixOf key.toList

theorem inGroup_key {group : String} (short : group.toList.length < maxKeyLength)
    (name : List Char) : inGroup group (key group name) = true := by
  rw [inGroup, key, String.toList_ofList, List.isPrefixOf_iff_prefix, List.prefix_take_iff]
  refine ⟨⟨name, by rw [List.append_assoc, List.singleton_append]⟩, ?_⟩
  rw [List.length_append, List.length_singleton]
  exact short

theorem inGroup_of_mem_read {group text name : String}
    (short : group.toList.length < maxKeyLength) (mem : name ∈ (read text group []).keys) :
    inGroup group name = true := by
  rcases Mapping.mem_keys_putAll.mp mem with mem | mem
  · simp at mem
  · obtain ⟨entry, listed, rfl⟩ := List.mem_map.mp mem
    obtain ⟨segment, -, assigned⟩ := List.mem_filterMap.mp listed
    rw [assignment?] at assigned
    split at assigned
    · obtain rfl := Option.some.inj assigned
      exact inGroup_key short _
    · simp at assigned

/-- The group of a key is what stands before its first dot. -/
theorem takeWhile_of_inGroup {group name : String} (dotless : '.' ∉ group.toList)
    (grouped : inGroup group name = true) :
    name.toList.takeWhile (· ≠ '.') = group.toList := by
  rw [inGroup, List.isPrefixOf_iff_prefix] at grouped
  obtain ⟨rest, whole⟩ := grouped
  have before : ∀ c ∈ group.toList, decide (c ≠ '.') = true := by
    intro c mem
    exact decide_eq_true fun dot => dotless (dot ▸ mem)
  rw [← whole, List.append_assoc, List.takeWhile_append_of_pos before]
  simp

theorem not_inGroup_of_ne {group other name : String} (dotless : '.' ∉ group.toList)
    (dotless' : '.' ∉ other.toList) (apart : group ≠ other) (grouped : inGroup group name = true) :
    inGroup other name = false := by
  cases grouped' : inGroup other name with
  | false => rfl
  | true =>
    have same := (takeWhile_of_inGroup dotless grouped).symm.trans
      (takeWhile_of_inGroup dotless' grouped')
    exact absurd (String.toList_inj.mp same) apart

/-- Variables of a group go behind those that are not of it. -/
theorem read_append {group : String} (short : group.toList.length < maxKeyLength)
    {known : Mapping String String} (others : ∀ name ∈ known.keys, inGroup group name = false)
    (text : String) : read text group known = known ++ read text group [] := by
  have absent : ∀ name ∈ Mapping.keys (entries group text.toList), name ∉ known.keys := by
    intro name mem mem'
    have read_too : name ∈ (read text group []).keys := Mapping.mem_keys_putAll.mpr (.inr mem)
    have grouped := inGroup_of_mem_read short read_too
    rw [others name mem'] at grouped
    simp at grouped
  have behind := Mapping.putAll_append_of_not_mem absent []
  rwa [List.append_nil] at behind

end NtpQuery.VariableList
