import NtpQuery.CommandLine.Options
import NtpQuery.Proofs.Budget
import NtpQuery.Proofs.Network.Waiting

/-!
# What reading arguments lets through

A reader takes arguments from left to right, and only its actions change the state
that it builds. What each action keeps is therefore kept by a step of the reader,
which takes a flag or the positional, and by reading the whole list.

The numbers of the program are checked one by one as they are read, so each of
them is in its range in the end, whatever else was given and in whatever order.
What is not a number is the only timeout that is not above zero.

A range is not enough to make a request. The mistakes that remain are listed as
`Options.Mistake`; without them the timeout is a whole number of ms, at least one,
and the budget of the request is accepted.
-/

namespace NtpQuery

theorem map_eq_ok {ε α β : Type} {result : Except ε α} {f : α → β} {b : β} :
    result.map f = .ok b ↔ ∃ a, result = .ok a ∧ f a = b := by
  cases result with
  | error failure =>
    show Except.error failure = .ok b ↔ _
    simp
  | ok a =>
    show Except.ok (f a) = .ok b ↔ _
    simp

namespace CommandLine

namespace Grammar

variable {ι σ : Type} {grammar : Grammar ι} {act : σ → Action ι → Except Stop σ} {P : σ → Prop}

/-- Every action that succeeds keeps a property of the state. -/
def Keeps (act : σ → Action ι → Except Stop σ) (P : σ → Prop) : Prop :=
  ∀ state action next, P state → act state action = .ok next → P next

variable (keeps : Keeps act P)

include keeps

theorem perform_keeps {progress last : Progress σ} {actions : List (Action ι)}
    (before : P progress.state) (h : perform act progress actions = .ok last) : P last.state := by
  induction actions generalizing progress with
  | nil =>
    obtain rfl := Except.ok.inj h
    exact before
  | cons action rest ih =>
    rw [perform] at h
    cases acted : act progress.state action with
    | error stop => simp [acted] at h
    | ok state =>
      simp only [acted] at h
      exact ih (keeps _ _ _ before acted) h

theorem takePositional_keeps {progress last : Progress σ} {tokens : List (Token ι)} {size : Nat}
    (before : P progress.state)
    (h : grammar.takePositional act progress tokens = .ok (some (last, size))) :
    P last.state := by
  rw [takePositional] at h
  split at h
  · simp at h
  · simp only at h
    split at h
    · simp at h
    · rename_i acted
      simp only [Except.ok.injEq, Option.some.injEq, Prod.mk.injEq] at h
      rw [← h.1]
      exact keeps _ _ _ before acted

theorem takeFlag_keeps {progress last : Progress σ} {token : Token ι} {rest : List (Token ι)}
    {further : Nat} (before : P progress.state)
    (h : grammar.takeFlag act progress token rest = .ok (last, further)) : P last.state := by
  have performed : ∀ {actions : List (Action ι)} {count : Nat},
      (perform act progress actions).map (·, count) = .ok (last, further) → P last.state := by
    intro actions count mapped
    obtain ⟨after, ran, same⟩ := map_eq_ok.mp mapped
    rw [← (Prod.mk.inj same).1]
    exact perform_keeps keeps before ran
  rw [takeFlag] at h
  split at h
  · split at h
    · simp at h
    · split at h
      · exact performed h
      · split at h
        · exact performed h
        · simp [argumentError] at h
      · simp [argumentError] at h
  · simp only [Except.ok.injEq, Prod.mk.injEq] at h
    rw [← h.1]
    exact before

theorem scan_keeps {fuel : Nat} {progress last : Progress σ} {tokens : List (Token ι)}
    (before : P progress.state) (h : grammar.scan act fuel progress tokens = .ok last) :
    P last.state := by
  induction fuel generalizing progress tokens with
  | zero =>
    obtain rfl := Except.ok.inj h
    exact before
  | succ fuel ih =>
    rw [scan] at h
    split at h
    · split at h
      · simp at h
      · rename_i taken
        have after := takePositional_keeps keeps before taken
        obtain rfl := Except.ok.inj h
        exact after
      · obtain rfl := Except.ok.inj h
        exact before
    · simp only at h
      split at h
      · simp at h
      · rename_i taken
        split at taken
        · simp at taken
        · exact ih (takePositional_keeps keeps before taken) h
      · split at h
        · obtain rfl := Except.ok.inj h
          exact before
        · split at h
          · simp at h
          · rename_i taken
            exact ih (takeFlag_keeps keeps (by exact before) taken) h

/-- What every action keeps holds of what is read. -/
theorem read_keeps {start state : σ} {arguments leftovers : List String} (before : P start)
    (h : grammar.read act start arguments = .ok (state, leftovers)) : P state := by
  rw [read] at h
  split at h
  · simp at h
  · split at h
    · simp at h
    · rename_i scanned
      split at h
      · simp only [Except.ok.injEq, Prod.mk.injEq] at h
        rw [← h.1]
        exact scan_keeps keeps before scanned
      · simp at h

end Grammar

theorem readRetries_nonneg {title value : String} {retries : Int}
    (h : readRetries title value = .ok retries) : 0 ≤ retries := by
  rw [readRetries] at h
  split at h
  · simp [invalidValue, Grammar.argumentError] at h
  · split at h
    · simp [Grammar.argumentError] at h
    · obtain rfl := Except.ok.inj h
      omega

theorem readPort_range {title value : String} {port : Int} (h : readPort title value = .ok port) :
    1 ≤ port ∧ port ≤ 65535 := by
  rw [readPort] at h
  split at h
  · simp [invalidValue, Grammar.argumentError] at h
  · split at h
    · simp [Grammar.argumentError] at h
    · obtain rfl := Except.ok.inj h
      omega

theorem readTimeout_positive {title value : String} {seconds : Binary64}
    (h : readTimeout title value = .ok seconds) :
    seconds = .nan ∨ seconds.compareInt? 0 = some .gt := by
  rw [readTimeout] at h
  split at h
  · simp [invalidValue, Grammar.argumentError] at h
  · split at h
    · simp [Grammar.argumentError] at h
    · simp [Grammar.argumentError] at h
    · rename_i x _ _ notLess notEqual
      obtain rfl := Except.ok.inj h
      cases compared : x.compareInt? 0 with
      | none =>
        left
        cases x with
        | nan => rfl
        | finite => simp [Binary64.compareInt?] at compared
        | infinity => simp [Binary64.compareInt?] at compared
      | some order =>
        cases order with
        | lt => exact absurd compared notLess
        | eq => exact absurd compared notEqual
        | gt => exact .inr rfl

theorem Setting.ofText?_value {α : Type} {read : String → Except Stop α} {text : Option String}
    {setting : Setting α} {a : α} (h : ofText? read text = .ok setting)
    (given : setting = .value a) : ∃ word, read word = .ok a := by
  subst given
  cases text with
  | none => simp [ofText?] at h
  | some word =>
    obtain ⟨b, told, same⟩ := map_eq_ok.mp h
    exact ⟨word, by rw [told, Setting.value.inj same]⟩

/-- Every number that is given is in its range. -/
structure Options.Checked (options : Options) : Prop where
  timeout : ∀ seconds, options.timeout = .value seconds →
    seconds = .nan ∨ seconds.compareInt? 0 = some .gt
  retries : ∀ retries, options.retries = .value retries → 0 ≤ retries
  port : ∀ port, options.port = .value port → 1 ≤ port ∧ port ≤ 65535

/-- A command chooses what is asked and changes no number. -/
theorem readCommand_keeps {reading next : Reading} {arguments : List String}
    (checked : reading.options.Checked) (h : readCommand reading arguments = .ok next) :
    next.options.Checked := by
  cases arguments with
  | nil =>
    obtain rfl := Except.ok.inj h
    exact checked
  | cons command rest =>
    rw [readCommand] at h
    split at h
    · simp [Grammar.argumentError] at h
    · obtain ⟨host, -, rfl⟩ := map_eq_ok.mp h
      exact ⟨checked.timeout, checked.retries, checked.port⟩

theorem readOption_keeps : Grammar.Keeps readOption fun reading => reading.options.Checked := by
  intro reading action next checked h
  obtain ⟨timeout, retries, port⟩ := checked
  cases action with
  | positional arguments => exact readCommand_keeps ⟨timeout, retries, port⟩ h
  | flag flag value =>
    simp only [readOption] at h
    split at h
    · simp at h
    · obtain rfl := Except.ok.inj h
      exact ⟨timeout, retries, port⟩
    · obtain rfl := Except.ok.inj h
      exact ⟨timeout, retries, port⟩
    · obtain ⟨setting, taken, rfl⟩ := map_eq_ok.mp h
      refine ⟨fun seconds given => ?_, retries, port⟩
      obtain ⟨word, told⟩ := Setting.ofText?_value taken given
      exact readTimeout_positive told
    · obtain ⟨setting, taken, rfl⟩ := map_eq_ok.mp h
      refine ⟨timeout, fun count given => ?_, port⟩
      obtain ⟨word, told⟩ := Setting.ofText?_value taken given
      exact readRetries_nonneg told
    · obtain ⟨setting, taken, rfl⟩ := map_eq_ok.mp h
      refine ⟨timeout, retries, fun number given => ?_⟩
      obtain ⟨word, told⟩ := Setting.ofText?_value taken given
      exact readPort_range told

/-- The options of any argument list that is accepted. -/
theorem Options.checked_read {arguments : List String} {options : Options}
    (h : Options.read arguments = .ok options) : options.Checked := by
  rw [Options.read] at h
  split at h
  · simp at h
  · rename_i reading _ taken
    split at h
    · obtain rfl := Except.ok.inj h
      have start : (({} : Reading).options).Checked := ⟨by simp, by simp, by simp⟩
      exact Grammar.read_keeps readOption_keeps start taken
    · simp at h

/-! ### Seconds as milliseconds -/

/-- A mistake in the options that reading them lets through. -/
inductive Options.Mistake (options : Options) : Failure → Prop
  | notNumber (given : options.timeout = .value .nan) : Mistake options .badValue
  /-- So many seconds are more milliseconds than the largest double. -/
  | endless {seconds : Binary64} (given : options.timeout = .value seconds)
      (positive : seconds.compareInt? 0 = some .gt)
      (beyond : (seconds.mul (.ofInt 1000)).isFinite = false) : Mistake options .overflow
  /-- An option was given without its value. -/
  | valueless
      (given : options.timeout = .empty ∨ options.retries = .empty ∨ options.port = .empty) :
      Mistake options .badType

/-- A number of seconds above zero makes at least one ms and no more than a double holds, unless
it is endless as a number of ms. -/
theorem timeoutMs_of_positive {options : Options} {seconds : Binary64}
    (given : options.timeout = .value seconds) (positive : seconds.compareInt? 0 = some .gt) :
    (∃ ms : Int, options.timeoutMs = .ok (some ms) ∧ 1 ≤ ms ∧ ms ≤ Binary64.largest ∧
        (seconds.mul (.ofInt 1000)).isFinite = true) ∨
      options.timeoutMs = .error .overflow ∧ (seconds.mul (.ofInt 1000)).isFinite = false := by
  have known : (seconds.mul (.ofInt 1000)).isNaN = false := Binary64.isNaN_mul_thousand positive
  rw [Options.timeoutMs, given]
  simp only [Setting.value?]
  cases whole : (seconds.mul (.ofInt 1000)).truncate? with
  | none =>
    right
    have endless : (seconds.mul (.ofInt 1000)).isFinite = false := by
      rw [← Binary64.isSome_truncate?, whole]
      rfl
    simp [known, endless]
  | some ms =>
    left
    have finite : (seconds.mul (.ofInt 1000)).isFinite = true := by
      rw [← Binary64.isSome_truncate?, whole]
      rfl
    have bound := Binary64.truncate?_mul_thousand_le positive whole
    have one : (1 : Int) ≤ Binary64.largest := Int.ofNat_le.mpr (Binary64.le_largest (by decide))
    exact ⟨max 1 ms, rfl, by omega, by omega, finite⟩

namespace Options

variable {options : Options} {timeoutMs : Option Int} {request : Request}

/-- A timeout that cannot be told in ms is a mistake in the options. -/
theorem mistake_of_timeoutMs (checked : options.Checked) {failure : Failure}
    (h : options.timeoutMs = .error failure) : options.Mistake failure := by
  cases given : options.timeout with
  | standard => simp [timeoutMs, given, Setting.value?] at h
  | empty =>
    obtain rfl : Failure.badType = failure := by simpa [timeoutMs, given, Setting.value?] using h
    exact .valueless (.inl given)
  | value seconds =>
    rcases checked.timeout seconds given with rfl | positive
    · obtain rfl : Failure.badValue = failure := by
        rw [timeoutMs, given] at h
        exact Except.error.inj h
      exact .notNumber given
    · rcases timeoutMs_of_positive given positive with ⟨ms, told, -⟩ | ⟨endless, beyond⟩
      · simp [told] at h
      · obtain rfl := Except.error.inj (endless.symm.trans h)
        exact .endless given positive beyond

/-- A timeout is at least one ms, and no more than a double holds. -/
theorem timeoutMs_range (checked : options.Checked) (h : options.timeoutMs = .ok timeoutMs) :
    ∀ ms ∈ timeoutMs, 1 ≤ ms ∧ ms ≤ Binary64.largest := by
  cases given : options.timeout with
  | standard =>
    obtain rfl : none = timeoutMs := by simpa [Options.timeoutMs, given, Setting.value?] using h
    rintro _ ⟨⟩
  | empty => simp [Options.timeoutMs, given, Setting.value?] at h
  | value seconds =>
    rcases checked.timeout seconds given with rfl | positive
    · rw [Options.timeoutMs, given] at h
      cases h
    · rcases timeoutMs_of_positive given positive with ⟨ms, told, least, most, -⟩ | ⟨endless, -⟩
      · obtain rfl := Except.ok.inj (told.symm.trans h)
        rintro _ ⟨⟩
        exact ⟨least, most⟩
      · simp [endless] at h

/-- What a request takes from the options. -/
theorem request_ok (h : options.request timeoutMs = .ok request) :
    options.retries ≠ .empty ∧ options.port ≠ .empty ∧ request.timeoutMs = timeoutMs ∧
      ∀ retries ∈ request.retries, options.retries = .value retries := by
  rw [Options.request] at h
  cases retries : options.retries with
  | empty => simp [retries, Setting.value?] at h
  | standard =>
    cases port : options.port with
    | empty => simp [retries, port, Setting.value?] at h
    | _ =>
      simp only [retries, port, Setting.value?, Except.ok.injEq] at h
      subst h
      simp
  | value n =>
    cases port : options.port with
    | empty => simp [retries, port, Setting.value?] at h
    | _ =>
      simp only [retries, port, Setting.value?, Except.ok.injEq] at h
      subst h
      simp

/-- Options from which no request is made lack a value. -/
theorem mistake_of_request {failure : Failure} (h : options.request timeoutMs = .error failure) :
    failure = .badType ∧ options.Mistake .badType := by
  rw [Options.request] at h
  cases retries : options.retries with
  | empty =>
    simp only [retries, Setting.value?, Except.error.injEq] at h
    exact ⟨h.symm, .valueless (.inr (.inl retries))⟩
  | _ =>
    cases port : options.port with
    | empty =>
      simp only [retries, port, Setting.value?, Except.error.injEq] at h
      exact ⟨h.symm, .valueless (.inr (.inr port))⟩
    | _ => simp [retries, port, Setting.value?] at h

/-- Options from which a request is made have no mistake. -/
theorem unmistaken (timed : options.timeoutMs = .ok timeoutMs)
    (requested : options.request timeoutMs = .ok request) (failure : Failure) :
    ¬ options.Mistake failure := by
  intro mistake
  obtain ⟨retries, port, -, -⟩ := request_ok requested
  cases mistake with
  | notNumber given =>
    rw [Options.timeoutMs, given] at timed
    cases timed
  | endless given positive beyond =>
    rcases timeoutMs_of_positive given positive with ⟨ms, -, -, -, finite⟩ | ⟨endless, -⟩
    · simp [finite] at beyond
    · simp [endless] at timed
  | valueless given =>
    rcases given with given | given | given
    · simp [Options.timeoutMs, given, Setting.value?] at timed
    · exact retries given
    · exact port given

/-- The numbers of a request make a budget, and the time of its attempts can be told. -/
theorem override_request (checked : options.Checked) (timed : options.timeoutMs = .ok timeoutMs)
    (requested : options.request timeoutMs = .ok request) :
    ∃ budget, Budget.standard.override request.retries request.timeoutMs = .ok budget ∧
      Network.Tellable budget.attemptMs := by
  obtain ⟨-, -, sameTimeout, given⟩ := request_ok requested
  have range := timeoutMs_range checked timed
  obtain ⟨budget, made⟩ := Budget.standard.override_of_valid
    (fun n asked => checked.retries n (given n asked))
    (fun n asked => (range n asked).1)
  have short := Budget.override_timeoutMs (p := (· ≤ (Binary64.largest : Int))) made
    (Int.ofNat_le.mpr (Binary64.le_largest (by decide))) fun n asked => (range n asked).2
  refine ⟨budget, sameTimeout ▸ made, Network.tellable_largest.mono ?_⟩
  exact Int.le_trans (Int.ofNat_le.mpr (Nat.div_le_self _ _)) short

end Options

end CommandLine

end NtpQuery
