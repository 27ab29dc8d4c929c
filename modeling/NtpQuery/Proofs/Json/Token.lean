import NtpQuery.Json.Parser
import NtpQuery.Json.Printer
import NtpQuery.Proofs.Text.Digits

/-!
# Reading what was written as a text or a number

A text is read character by character up to its closing quote, and each is read
back from its escape. A number ends where something else begins: behind a value
there is nothing or a mark, `Behind`.
-/

namespace NtpQuery.Json

/-- What can stand behind a value: nothing, or a mark. -/
def Behind (rest : List Char) : Prop :=
  ∀ c ∈ rest.head?, c = ',' ∨ c = ']' ∨ c = '\x7d'

/-! ### Texts -/

theorem hexUnit?_hexadecimal {unit : Nat} (small : unit < 65536) (rest : List Char) :
    hexUnit? ((Text.hexadecimal 4 unit).toList ++ rest) = some (unit, rest) := by
  obtain ⟨a, b, c, d, digits, written, read, value⟩ := Text.hexadecimal_four small
  rw [written]
  simp only [List.cons_append, List.nil_append, hexUnit?, read]
  exact congrArg (fun n => some (n, rest)) value

theorem escape?_unit {unit : Nat} (small : unit < 65536) (alone : ¬ (0xD800 ≤ unit ∧ unit < 0xE000))
    (rest : List Char) :
    escape? ('u' :: ((Text.hexadecimal 4 unit).toList ++ rest)) =
      some (Char.ofNat unit, rest) := by
  have high : isHighUnit unit = false := by
    simp only [isHighUnit, Bool.and_eq_false_iff, decide_eq_false_iff_not]
    omega
  have low : isLowUnit unit = false := by
    simp only [isLowUnit, Bool.and_eq_false_iff, decide_eq_false_iff_not]
    omega
  simp [escape?, hexUnit?_hexadecimal small, high, low]

theorem escape?_pair {high low : Nat} (isHigh : 0xD800 ≤ high ∧ high < 0xDC00)
    (isLow : 0xDC00 ≤ low ∧ low < 0xE000) (rest : List Char) :
    escape? ('u' :: ((Text.hexadecimal 4 high).toList ++
        '\\' :: 'u' :: ((Text.hexadecimal 4 low).toList ++ rest))) =
      some (Char.ofNat (0x10000 + (high - 0xD800) * 0x400 + (low - 0xDC00)), rest) := by
  have first : isHighUnit high = true := by simpa [isHighUnit] using isHigh
  have second : isLowUnit low = true := by simpa [isLowUnit] using isLow
  have follows : lowUnit? ('\\' :: 'u' :: ((Text.hexadecimal 4 low).toList ++ rest)) =
      some (low, rest) := by
    simp [lowUnit?, hexUnit?_hexadecimal (show low < 65536 by omega), second]
  simp only [escape?, hexUnit?_hexadecimal (show high < 65536 by omega), Option.bind_eq_bind,
    Option.bind_some, first, if_true, follows]
  rfl

/-- The two halves of a character beyond the basic ones give it back. -/
theorem pair_eq {n high low : Nat} (beyond : 0x10000 ≤ n) (scalar : n < 0x110000)
    (hh : high = 0xD800 + (n - 0x10000) / 0x400) (hl : low = 0xDC00 + (n - 0x10000) % 0x400) :
    (0xD800 ≤ high ∧ high < 0xDC00) ∧ (0xDC00 ≤ low ∧ low < 0xE000) ∧
      0x10000 + (high - 0xD800) * 0x400 + (low - 0xDC00) = n := by
  omega

/-- A character is read back from the units that it is written as. -/
theorem escape?_codeUnits (c : Char) (rest : List Char) :
    ∃ body, (codeUnits c).flatMap (fun unit => '\\' :: 'u' :: (Text.hexadecimal 4 unit).toList) =
        '\\' :: body ∧ escape? (body ++ rest) = some (c, rest) := by
  have scalar : c.toNat < 0xD800 ∨ 0xDFFF < c.toNat ∧ c.toNat < 0x110000 := c.valid
  by_cases basic : c.toNat < 0x10000
  · rw [codeUnits, if_pos basic]
    refine ⟨_, rfl, ?_⟩
    have read := escape?_unit basic (by omega) rest
    rw [Char.ofNat_toNat] at read
    simpa using read
  · rw [codeUnits, if_neg basic]
    obtain ⟨high, hh⟩ : ∃ high, high = 0xD800 + (c.toNat - 0x10000) / 0x400 := ⟨_, rfl⟩
    obtain ⟨low, hl⟩ : ∃ low, low = 0xDC00 + (c.toNat - 0x10000) % 0x400 := ⟨_, rfl⟩
    obtain ⟨isHigh, isLow, whole⟩ := pair_eq (by omega) (by omega) hh hl
    have read := escape?_pair isHigh isLow rest
    rw [whole, Char.ofNat_toNat] at read
    rw [← hh, ← hl]
    refine ⟨'u' :: ((Text.hexadecimal 4 high).toList ++
      '\\' :: 'u' :: (Text.hexadecimal 4 low).toList), ?_, ?_⟩
    · simp
    · simpa using read

theorem escapedChar_ne_nil (c : Char) : escapedChar c ≠ [] := by
  rw [escapedChar]
  split
  · simp
  · split
    · simp
    · obtain ⟨body, units, -⟩ := escape?_codeUnits c []
      simp [units]

/-- The letter of an escape is printable, and the character is read back from it. -/
theorem escapeLetter?_spec {c letter : Char} (named : escapeLetter? c = some letter) :
    (0x20 ≤ letter.toNat ∧ letter.toNat ≤ 0x7E) ∧
      ∀ rest, escape? (letter :: rest) = some (c, rest) := by
  unfold escapeLetter? at named
  split at named
  all_goals
    first
      | contradiction
      | obtain rfl := Option.some.inj named
        exact ⟨by decide, fun _ => rfl⟩

/-- A character is read back from what is written for it. -/
theorem textBody_escapedChar (c : Char) (fuel : Nat) (readRev rest : List Char) :
    textBody (fuel + 1) readRev (escapedChar c ++ rest) = textBody fuel (c :: readRev) rest := by
  rw [escapedChar]
  split
  · rename_i letter named
    have read := (escapeLetter?_spec named).2 rest
    rw [List.cons_append, List.cons_append, List.nil_append, textBody, if_neg (by decide),
      if_pos rfl]
    simp only [read]
  · rename_i unnamed
    have quote : c ≠ '"' := by
      rintro rfl
      simp [escapeLetter?] at unnamed
    have backslash : c ≠ '\\' := by
      rintro rfl
      simp [escapeLetter?] at unnamed
    split
    · rename_i printable
      simp only [Bool.and_eq_true, decide_eq_true_eq] at printable
      rw [List.cons_append, List.nil_append, textBody, if_neg quote, if_neg backslash,
        if_neg (by omega)]
    · obtain ⟨body, units, read⟩ := escape?_codeUnits c rest
      rw [units, List.cons_append, textBody, if_neg (by decide), if_pos rfl]
      simp only [read]

theorem length_le_flatMap_escapedChar (chars : List Char) :
    chars.length ≤ (chars.flatMap escapedChar).length := by
  induction chars with
  | nil => exact Nat.le_refl 0
  | cons c chars ih =>
    have positive := List.length_pos_iff.mpr (escapedChar_ne_nil c)
    rw [List.flatMap_cons, List.length_append, List.length_cons]
    omega

/-- The characters of a text are read up to its closing quote. -/
theorem textBody_escaped (chars : List Char) {fuel : Nat} (enough : chars.length < fuel)
    (readRev rest : List Char) :
    textBody fuel readRev (chars.flatMap escapedChar ++ '"' :: rest) =
      .ok (String.ofList (readRev.reverse ++ chars), rest) := by
  induction chars generalizing fuel readRev with
  | nil =>
    obtain ⟨fuel, rfl⟩ : ∃ n, fuel = n + 1 := ⟨fuel - 1, by simp at enough; omega⟩
    simp [textBody]
  | cons c chars ih =>
    rw [List.length_cons] at enough
    obtain ⟨fuel, rfl⟩ : ∃ n, fuel = n + 1 := ⟨fuel - 1, by omega⟩
    rw [List.flatMap_cons, List.append_assoc, textBody_escapedChar, ih (by omega)]
    simp

theorem toList_quotedText (s : String) :
    (quotedText s).toList = '"' :: (s.toList.flatMap escapedChar ++ ['"']) := by
  simp [quotedText]

theorem textBody_quotedText (s : String) (rest : List Char) :
    textBody ((s.toList.flatMap escapedChar ++ '"' :: rest).length + 1) []
      (s.toList.flatMap escapedChar ++ '"' :: rest) = .ok (s, rest) := by
  have length := length_le_flatMap_escapedChar s.toList
  have enough : s.toList.length < (s.toList.flatMap escapedChar ++ '"' :: rest).length + 1 := by
    rw [List.length_append]
    omega
  rw [textBody_escaped s.toList enough, List.reverse_nil, List.nil_append, String.ofList_toList]

/-! ### Numbers -/

theorem takeWhile_digits {digits rest : List Char} (all : ∀ c ∈ digits, c.isDigit = true)
    (behind : Behind rest) : (digits ++ rest).takeWhile Char.isDigit = digits ∧
      (digits ++ rest).dropWhile Char.isDigit = rest := by
  rw [List.takeWhile_append_of_pos all, List.dropWhile_append_of_pos all]
  cases rest with
  | nil => simp
  | cons c rest =>
    have mark := behind c rfl
    have other : c.isDigit = false := by
      rcases mark with rfl | rfl | rfl
      all_goals rfl
    simp [other]

theorem isDigit_of_mem {n : Nat} : ∀ c ∈ Nat.toDigits 10 n, c.isDigit = true :=
  fun _ mem => Nat.isDigit_of_mem_toDigits (by decide) (by decide) mem

theorem exists_cons_toDigits (n : Nat) :
    ∃ c tail, Nat.toDigits 10 n = c :: tail ∧ c.isDigit = true := by
  obtain ⟨c, tail, digits⟩ := List.exists_cons_of_ne_nil (@Nat.toDigits_ne_nil n 10)
  exact ⟨c, tail, digits, isDigit_of_mem c (by rw [digits]; exact List.mem_cons_self)⟩

theorem ne_of_isDigit {c d : Char} (digit : c.isDigit = true) (other : d.isDigit = false) :
    c ≠ d := by
  rintro rfl
  rw [digit] at other
  contradiction

theorem digitChar_ne_zero : ∀ d < 10, 0 < d → d.digitChar ≠ '0' := by
  decide

/-- A numeral starts with a zero only when it is zero. -/
theorem head?_toDigits {n : Nat} (positive : 0 < n) : (Nat.toDigits 10 n).head? ≠ some '0' := by
  induction n using Nat.strongRecOn with
  | ind n ih =>
    by_cases small : n < 10
    · rw [Nat.toDigits_of_lt_base small]
      intro zero
      exact digitChar_ne_zero n small positive (Option.some.inj zero)
    · have first := ih (n / 10) (Nat.div_lt_self positive (by decide)) (by omega)
      obtain ⟨c, tail, digits, -⟩ := exists_cons_toDigits (n / 10)
      rw [Nat.toDigits_of_base_le (by decide) (by omega), digits]
      rwa [digits] at first

theorem wholeDigits_toDigits (n : Nat) {rest : List Char} (behind : Behind rest) :
    wholeDigits (Nat.toDigits 10 n ++ rest) = (Nat.toDigits 10 n, rest) := by
  rcases Nat.eq_zero_or_pos n with rfl | positive
  · rfl
  · obtain ⟨taken, dropped⟩ := takeWhile_digits (@isDigit_of_mem n) behind
    rw [wholeDigits]
    · rw [taken, dropped]
    · intro tail starts
      obtain ⟨c, more, digits, -⟩ := exists_cons_toDigits n
      have nonzero := head?_toDigits positive
      rw [digits] at starts nonzero
      exact nonzero (congrArg some (List.cons.inj starts).1)

/-- Nothing that belongs to a number follows its digits. -/
theorem fractionDigits_behind {rest : List Char} (behind : Behind rest) :
    fractionDigits rest = ([], rest) := by
  rw [fractionDigits]
  rintro tail rfl
  have mark := behind '.' rfl
  revert mark
  decide

theorem exponentDigits_behind {rest : List Char} (behind : Behind rest) :
    exponentDigits rest = (none, rest) := by
  cases rest with
  | nil => rfl
  | cons c rest =>
    rcases behind c rfl with rfl | rfl | rfl
    all_goals simp [exponentDigits]

theorem unsignedNumber_toDigits (negative : Bool) {n : Nat}
    (short : n < 10 ^ Text.Numeral.maxDigits) {rest : List Char} (behind : Behind rest) :
    unsignedNumber negative (Nat.toDigits 10 n ++ rest) =
      .ok (.whole (Text.Numeral.withSign negative n), rest) := by
  have read := Text.Numeral.ofDigits?_toDigits short
  simp [unsignedNumber, wholeDigits_toDigits n behind, fractionDigits_behind behind,
    exponentDigits_behind behind, Nat.toDigits_ne_nil, digitValues, read]

theorem literal?_digit {name : String} {first c : Char} {tail : List Char}
    (chars : name.toList = first :: tail) (other : first.isDigit = false)
    (digit : c.isDigit = true) (rest : List Char) : literal? name (c :: rest) = none := by
  rw [literal?, chars, if_neg]
  simp [List.isPrefixOf, (ne_of_isDigit digit other).symm]

theorem toList_toString (n : Int) :
    (toString n).toList = if 0 ≤ n then Nat.toDigits 10 n.natAbs
      else '-' :: Nat.toDigits 10 n.natAbs := by
  rw [Int.toString_eq_repr, Int.repr_eq_if]
  split
  · rw [Nat.repr_eq_ofList_toDigits, String.toList_ofList, show n.toNat = n.natAbs by omega]
  · rw [Nat.repr_eq_ofList_toDigits, String.toList_append, String.toList_ofList,
      String.toList_ofList, show (-n).toNat = n.natAbs by omega]
    rfl

/-- The text of a whole number starts with a digit or a minus sign. -/
theorem head_toString (n : Int) :
    ∃ c tail, (toString n).toList = c :: tail ∧ ∀ d, d ≠ '-' → d.isDigit = false → c ≠ d := by
  rw [toList_toString]
  split
  · obtain ⟨c, tail, digits, digit⟩ := exists_cons_toDigits n.natAbs
    exact ⟨c, tail, digits, fun d _ other => ne_of_isDigit digit other⟩
  · exact ⟨'-', _, rfl, fun d other _ => other.symm⟩

theorem scalar_toString {n : Int} (short : n.natAbs < 10 ^ Text.Numeral.maxDigits)
    {rest : List Char} (behind : Behind rest) :
    scalar ((toString n).toList ++ rest) = .ok (.whole n, rest) := by
  obtain ⟨c, tail, digits, digit⟩ := exists_cons_toDigits n.natAbs
  have number := fun negative => unsignedNumber_toDigits negative short behind
  have unnamed : ∀ name ∈ ["null", "true", "false", "NaN", "Infinity"],
      literal? name (Nat.toDigits 10 n.natAbs ++ rest) = none := by
    intro name mem
    rw [digits, List.cons_append]
    simp only [List.mem_cons, List.not_mem_nil, or_false] at mem
    rcases mem with rfl | rfl | rfl | rfl | rfl
    all_goals exact literal?_digit rfl rfl digit _
  simp only [List.mem_cons, List.not_mem_nil, or_false, forall_eq_or_imp, forall_eq] at unnamed
  obtain ⟨null, true, false, nan, infinity⟩ := unnamed
  rw [toList_toString]
  split
  · rename_i natural
    have unsigned := number Bool.false
    rw [Text.Numeral.withSign, if_neg (by decide), Int.natAbs_of_nonneg natural] at unsigned
    rw [scalar]
    · simp [null, true, false, nan, infinity, unsigned, Except.map, whole]
    · intro other starts
      rw [digits] at starts
      exact ne_of_isDigit digit rfl (List.cons.inj starts).1
  · rename_i negative
    have signed := number Bool.true
    rw [Text.Numeral.withSign, if_pos rfl, show -(n.natAbs : Int) = n by omega] at signed
    rw [List.cons_append, scalar]
    simp [infinity, signed, Except.map, whole]

/-! ### White space -/

theorem skipSpace_of_head {c : Char} {rest : List Char} (solid : isSpace c = false) :
    skipSpace (c :: rest) = c :: rest := by
  rw [skipSpace, List.dropWhile_cons_of_neg (by simp [solid])]

theorem skipSpace_behind {rest : List Char} (behind : Behind rest) : skipSpace rest = rest := by
  cases rest with
  | nil => rfl
  | cons c rest =>
    apply skipSpace_of_head
    rcases behind c rfl with rfl | rfl | rfl
    all_goals rfl

end NtpQuery.Json
