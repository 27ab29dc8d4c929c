/-!
# Splitting at a separator

A text with `n` separators has `n + 1` parts. Everything about them follows
from `split_append_cons`, which splits at one separator, and
`split_eq_singleton`, which leaves a text without any as it is.
-/

namespace NtpQuery.Text

/-- The parts of a text between separators. -/
def split (separator : Char) : List Char → List (List Char)
  | [] => [[]]
  | c :: rest =>
    match split separator rest with
    | [] => [[c]]
    | first :: others =>
      if c = separator then [] :: first :: others else (c :: first) :: others

@[simp] theorem split_nil (separator : Char) : split separator [] = [[]] := rfl

theorem split_ne_nil (separator : Char) (text : List Char) : split separator text ≠ [] := by
  cases text with
  | nil => simp
  | cons c rest =>
    simp only [split]
    split
    · simp
    · split <;> simp

/-- A separator ends a part and begins the next one. -/
theorem split_append_cons (separator : Char) (left right : List Char) :
    split separator (left ++ separator :: right) =
      split separator left ++ split separator right := by
  induction left with
  | nil =>
    cases h : split separator right with
    | nil => exact absurd h (split_ne_nil separator right)
    | cons first others => simp [split, h]
  | cons c rest ih =>
    cases h : split separator rest with
    | nil => exact absurd h (split_ne_nil separator rest)
    | cons first others =>
      by_cases hc : c = separator <;> simp [split, ih, h, hc]

/-- A text without the separator is one part. -/
theorem split_eq_singleton {separator : Char} {text : List Char} (h : separator ∉ text) :
    split separator text = [text] := by
  induction text with
  | nil => rfl
  | cons c rest ih =>
    simp only [List.mem_cons, not_or] at h
    have hc : ¬ c = separator := fun e => h.1 e.symm
    simp [split, ih h.2, hc]

end NtpQuery.Text
