import Mathlib.Data.List.TakeWhile
import NtpQuery.Http.Standard
import NtpQuery.Proofs.Json.Token

/-!
# The standard framework can be relied on

It finds the declared routes, reads a number that is written plainly as this
number, whatever else it reads, and checks the bounds. So everything that is
shown of the service behind a lawful framework holds of the running one.
-/

namespace NtpQuery

namespace Text

theorem trim_eq_self {drop : Char → Bool} {text : List Char}
    (kept : ∀ c ∈ text, drop c = false) : trim drop text = text := by
  have whole : ∀ {other : List Char}, (∀ c ∈ other, drop c = false) →
      other.dropWhile drop = other := by
    intro other kept
    cases other with
    | nil => rfl
    | cons c rest => exact List.dropWhile_cons_of_neg (by simp [kept c List.mem_cons_self])
  rw [trim, whole kept, whole fun c mem => kept c (List.mem_reverse.mp mem), List.reverse_reverse]

theorem isBlank_of_isDigit {c : Char} (digit : c.isDigit = true) : isBlank c = false := by
  have range : 48 ≤ c.toNat ∧ c.toNat ≤ 57 := Char.isDigit_iff_toNat.mp digit
  simp only [isBlank, blankRanges, List.any_cons, List.any_nil, Bool.or_false]
  simp only [Bool.or_eq_false_iff, Bool.and_eq_false_iff, decide_eq_false_iff_not]
  omega

theorem isBlank_of_mem_toString {n : Int} {c : Char} (mem : c ∈ (toString n).toList) :
    isBlank c = false := by
  rw [Json.toList_toString] at mem
  split at mem
  · exact isBlank_of_isDigit (Json.isDigit_of_mem c mem)
  · rcases List.mem_cons.mp mem with rfl | mem
    · decide
    · exact isBlank_of_isDigit (Json.isDigit_of_mem c mem)

namespace Numeral

theorem splitSign_toString (n : Int) :
    splitSign (toString n).toList = (decide (n < 0), Nat.toDigits 10 n.natAbs) := by
  obtain ⟨c, tail, digits, digit⟩ := Json.exists_cons_toDigits n.natAbs
  have other : ∀ d, d.isDigit = false → c ≠ d := fun d => Json.ne_of_isDigit digit
  rw [Json.toList_toString]
  split
  · rename_i natural
    rw [digits, splitSign]
    · rw [decide_eq_false (by omega)]
    · exact fun rest same => other '-' rfl (List.cons.inj same).1
    · exact fun rest same => other '+' rfl (List.cons.inj same).1
  · rename_i negative
    rw [splitSign, decide_eq_true (by omega)]

/-- The digits of a number are read as this number, unless they are too many. -/
theorem eq_of_ofDigits?_toDigits {n m : Nat}
    (read : ofDigits? ((Nat.toDigits 10 n).map fun c => c.toNat - 48) = some m) : m = n := by
  by_cases short : n < 10 ^ maxDigits
  · exact (Option.some.inj ((ofDigits?_toDigits short).symm.trans read)).symm
  · have long : maxDigits < (Nat.toDigits 10 n).length := by
      rwa [← Nat.not_le, Nat.length_toDigits_le_iff (by decide) (by decide)]
    simp [ofDigits?, long] at read

/-- Digits without underscores among them are read one by one. -/
theorem groupedDigits?_of_digits {digits : List Char} (nonempty : digits ≠ [])
    (all : ∀ c ∈ digits, c.isDigit = true) :
    groupedDigits? asciiDigitValue? digits = some (digits.map fun c => c.toNat - 48) := by
  induction digits with
  | nil => exact absurd rfl nonempty
  | cons c rest ih =>
    rw [List.forall_mem_cons] at all
    have first : asciiDigitValue? c = some (c.toNat - 48) := by
      rw [asciiDigitValue?, if_pos all.1]
    cases rest with
    | nil => simp [groupedDigits?, first]
    | cons d rest =>
      have grouped := ih (by simp) all.2
      have score : d ≠ '_' := Json.ne_of_isDigit (all.2 d List.mem_cons_self) rfl
      rw [groupedDigits?]
      · rw [first, grouped]
        rfl
      · simp
      · simpa using score

end Numeral

end Text

namespace Http

/-- Digits of a number have no zeros in front and no fraction. -/
theorem plain_toDigits (n : Nat) : withoutLeadingZeros? (Nat.toDigits 10 n) =
      some (Nat.toDigits 10 n) ∧ wholePart? (Nat.toDigits 10 n) = some (Nat.toDigits 10 n) := by
  obtain ⟨c, tail, digits, digit⟩ := Json.exists_cons_toDigits n
  constructor
  · rcases Nat.eq_zero_or_pos n with rfl | positive
    · rfl
    · have nonzero := Json.head?_toDigits positive
      rw [digits] at nonzero ⊢
      rw [withoutLeadingZeros?, if_pos digit]
      exact fun zero => nonzero (congrArg some zero)
  · have point : ∀ c ∈ Nat.toDigits 10 n, decide (c ≠ '.') = true := by
      intro c mem
      exact decide_eq_true (Json.ne_of_isDigit (Json.isDigit_of_mem c mem) rfl)
    rw [wholePart?, List.dropWhile_eq_nil_iff.mpr point]

/-- A number that is written plainly is read as this number. -/
theorem readWhole?_toString {n m : Int} (read : readWhole? (toString n) = some m) : m = n := by
  obtain ⟨c, tail, digits, digit⟩ := Json.exists_cons_toDigits n.natAbs
  obtain ⟨zeros, whole⟩ := plain_toDigits n.natAbs
  have grouped := Text.Numeral.groupedDigits?_of_digits Nat.toDigits_ne_nil
    (Json.isDigit_of_mem (n := n.natAbs))
  have unsigned : c ≠ '-' := Json.ne_of_isDigit digit rfl
  rw [readWhole?, Text.trim_eq_self fun _ => Text.isBlank_of_mem_toString,
    Text.Numeral.splitSign_toString] at read
  simp only [zeros, Option.bind_eq_bind, Option.bind_some] at read
  split at read
  · rename_i same
    exact absurd (List.cons.inj (digits.symm.trans same)).1 unsigned
  · rename_i same
    exact absurd (List.cons.inj (digits.symm.trans same)).1 unsigned
  · simp only [whole, grouped, Option.bind_some, Bool.false_and, Bool.false_eq_true, if_false,
      Bool.or_false, Option.bind_eq_some_iff, Option.some.injEq] at read
    obtain ⟨magnitude, value, rfl⟩ := read
    obtain rfl := Text.Numeral.eq_of_ofDigits?_toDigits value
    simp only [Text.Numeral.withSign, decide_eq_true_eq]
    split <;> omega

variable {request : Request}

/-- A parameter that is accepted has the number that it gives, within its bounds. -/
theorem wholeParam?_spec {name : String} {valid : Int → Bool} {number : Option Int}
    (read : wholeParam? request name valid = some number) :
    request.Gives name number ∧ ∀ n ∈ number, valid n = true := by
  rw [wholeParam?, param?] at read
  refine ⟨?_, ?_⟩
  · intro given values
    rw [values] at read
    cases given with
    | none => exact (Option.some.inj read).symm
    | some n =>
      simp only [Option.toList_some, List.map_cons, List.map_nil, List.getLast?_singleton] at read
      split at read
      · rename_i m told
        obtain rfl := readWhole?_toString told
        split at read
        · exact (Option.some.inj read).symm
        · simp at read
      · simp at read
  · split at read
    · obtain rfl := Option.some.inj read
      simp
    · split at read
      · split at read
        · rename_i fits
          obtain rfl := Option.some.inj read
          simpa using fits
        · simp at read
      · simp at read

theorem asks_queryOf? {query : NtpQuery.Request} (read : queryOf? request = some query) :
    request.Asks query := by
  simp only [queryOf?, Option.bind_eq_bind, Option.bind_eq_some_iff, Option.pure_def,
    Option.some.injEq] at read
  obtain ⟨host, named, port, place, retries, attempts, timeoutMs, timeout, rfl⟩ := read
  have place := wholeParam?_spec place
  have attempts := wholeParam?_spec attempts
  have timeout := wholeParam?_spec timeout
  refine ⟨List.mem_of_getLast? named, ⟨port, place.1, rfl⟩, ?_, attempts.1, ?_, timeout.1, ?_⟩
  · cases port with
    | none => exact (by decide : (1 : Int) ≤ 123 ∧ (123 : Int) ≤ 65535)
    | some n => simpa using place.2 n rfl
  · exact fun n given => by simpa using attempts.2 n given
  · exact fun n given => by simpa using timeout.2 n given

/-- A number of a body is read as it is. -/
theorem wholeMember?_spec {body : Json} {name : String} {number given : Option Int}
    (read : wholeMember? body name = some number)
    (gives : (body.member? name).getD .null = given.elim .null .whole) : number = given := by
  rw [wholeMember?] at read
  cases given with
  | none =>
    cases found : body.member? name with
    | none =>
      rw [found] at read
      exact (Option.some.inj read).symm
    | some value =>
      rw [found] at gives read
      obtain rfl : value = .null := gives
      exact (Option.some.inj read).symm
  | some n =>
    cases found : body.member? name with
    | none => simp [found, Json.whole] at gives
    | some value =>
      rw [found] at gives read
      obtain rfl : value = .whole n := gives
      exact (Option.some.inj read).symm

theorem routeOf_of_isFor {route : Route} (declared : request.IsFor route) :
    routeOf request = .ok route := by
  obtain ⟨path, mem, target⟩ := declared
  rw [routeOf, target]
  generalize request.method = method at mem ⊢
  simp only [routes, List.mem_cons, List.not_mem_nil, or_false, Prod.mk.injEq] at mem
  rcases mem with ⟨rfl, rfl, rfl⟩ | ⟨rfl, rfl, rfl⟩ | ⟨rfl, rfl, rfl⟩ | ⟨rfl, rfl, rfl⟩ |
    ⟨rfl, rfl, rfl⟩ | ⟨rfl, rfl, rfl⟩
  all_goals rfl

theorem readDefaults_ok {numbers : Option Int × Option Int}
    (read : readDefaults request = .ok numbers) :
    ∃ body, request.body = some body ∧ wholeMember? body "retries" = some numbers.1 ∧
      wholeMember? body "timeout_ms" = some numbers.2 := by
  rw [readDefaults] at read
  split at read
  · simp at read
  · rename_i body given
    split at read
    · split at read
      · simp at read
      · rename_i found
        obtain rfl := Except.ok.inj read
        cases body with
        | object members =>
          simp only [defaultsOf?, Option.bind_eq_bind, Option.bind_eq_some_iff, Option.pure_def,
            Option.some.injEq] at found
          obtain ⟨retries, first, timeoutMs, second, rfl⟩ := found
          exact ⟨_, given, first, second⟩
        | _ => simp [defaultsOf?] at found
    · simp at read

theorem readDefaults_error {response : Response} (refused : readDefaults request = .error response) :
    response = invalid ∨ response = unreadable := by
  rw [readDefaults] at refused
  split at refused
  · exact .inl (Except.error.inj refused).symm
  · split at refused
    · split at refused
      · exact .inl (Except.error.inj refused).symm
      · simp at refused
    · exact .inr (Except.error.inj refused).symm

/-- The standard framework can be relied on. -/
theorem lawful_standard : standard.Lawful where
  routed request route declared := routeOf_of_isFor declared
  asks request query read := by
    simp only [standard] at read
    split at read
    · simp at read
    · rename_i found
      obtain rfl := Except.ok.inj read
      exact asks_queryOf? found
  unasked request response refused := by
    simp only [standard] at refused
    split at refused
    · rw [← Except.error.inj refused]
      rfl
    · simp at refused
  puts request numbers read := by
    obtain ⟨body, given, retries, timeoutMs⟩ := readDefaults_ok read
    refine ⟨?_, ?_⟩
    · intro other number same gives
      obtain rfl := Option.some.inj (given.symm.trans same)
      exact wholeMember?_spec retries gives
    · intro other number same gives
      obtain rfl := Option.some.inj (given.symm.trans same)
      exact wholeMember?_spec timeoutMs gives
  unput request response refused := by
    rcases readDefaults_error refused with rfl | rfl
    · exact .inl rfl
    · exact .inr rfl

end Http

end NtpQuery
