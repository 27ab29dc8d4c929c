import NtpQuery.Proofs.Json.RoundTrip

/-!
# Values on one line

Whatever is not printable ASCII is escaped, and there is no white space between
the parts of a container. So the text of a value has no line ends in it.
-/

namespace NtpQuery.Json

/-- A text of printable ASCII characters. -/
def Visible (text : List Char) : Prop :=
  ∀ c ∈ text, 0x20 ≤ c.toNat ∧ c.toNat ≤ 0x7E

instance (text : List Char) : Decidable (Visible text) :=
  decidable_of_iff (text.all fun c => 0x20 ≤ c.toNat && c.toNat ≤ 0x7E) (by simp [Visible])

theorem Visible.append {text others : List Char} (first : Visible text) (rest : Visible others) :
    Visible (text ++ others) := by
  intro c mem
  rcases List.mem_append.mp mem with mem | mem
  · exact first c mem
  · exact rest c mem

theorem Visible.cons {c : Char} {text : List Char} (first : 0x20 ≤ c.toNat ∧ c.toNat ≤ 0x7E)
    (rest : Visible text) : Visible (c :: text) := by
  intro d mem
  rcases List.mem_cons.mp mem with rfl | mem
  · exact first
  · exact rest d mem

theorem visible_nil : Visible [] := by
  simp [Visible]

theorem visible_flatMap {α : Type} {f : α → List Char} (all : List α)
    (each : ∀ a ∈ all, Visible (f a)) : Visible (all.flatMap f) := by
  intro c mem
  obtain ⟨a, one, mem⟩ := List.mem_flatMap.mp mem
  exact each a one c mem

theorem visible_hexadecimal (unit : Nat) : Visible (Text.hexadecimal 4 unit).toList := by
  have digits : ∀ d < 16, 0x20 ≤ d.digitChar.toNat ∧ d.digitChar.toNat ≤ 0x7E := by decide
  rw [Text.toList_hexadecimal]
  apply Visible.append
  · intro c mem
    rw [List.eq_of_mem_replicate mem]
    decide
  · intro c mem
    obtain ⟨d, small, rfl⟩ := Text.mem_toDigits (by decide) mem
    exact digits d small

theorem visible_escapedChar (c : Char) : Visible (escapedChar c) := by
  rw [escapedChar]
  split
  · rename_i letter named
    exact .cons (by decide) (.cons (escapeLetter?_spec named).1 visible_nil)
  · split
    · rename_i printable
      simp only [Bool.and_eq_true, decide_eq_true_eq] at printable
      exact .cons printable visible_nil
    · apply visible_flatMap
      intro unit _
      exact .cons (by decide) (.cons (by decide) (visible_hexadecimal unit))

theorem visible_quotedText (s : String) : Visible (quotedText s).toList := by
  rw [toList_quotedText]
  apply Visible.cons (by decide)
  apply Visible.append
  · exact visible_flatMap _ fun c _ => visible_escapedChar c
  · exact .cons (by decide) visible_nil

theorem Visible.of_subset {text others : List Char} (whole : Visible others)
    (part : ∀ c ∈ text, c ∈ others) : Visible text :=
  fun c mem => whole c (part c mem)

theorem visible_toDigits (n : Nat) : Visible (Nat.toDigits 10 n) := by
  have digit : ∀ d < 10, 0x20 ≤ d.digitChar.toNat ∧ d.digitChar.toNat ≤ 0x7E := by decide
  intro c mem
  obtain ⟨d, small, rfl⟩ := Text.mem_toDigits (by decide) mem
  exact digit d small

theorem visible_zeros (count : Nat) : Visible (List.replicate count '0') := by
  intro c mem
  rw [List.eq_of_mem_replicate mem]
  decide

theorem visible_toString (n : Int) : Visible (toString n).toList := by
  rw [toList_toString]
  split
  · exact visible_toDigits _
  · exact .cons (by decide) (visible_toDigits _)

/-! ### Doubles -/

theorem visible_positional {digits : List Char} (visible : Visible digits) (whole : Int) :
    Visible (Binary64.Layout.positional digits whole).toList := by
  have point : Visible ['.'] := .cons (by decide) visible_nil
  rw [Binary64.Layout.positional]
  split
  · have front : Visible "0.".toList := .cons (by decide) point
    simp only [String.toList_append, String.toList_ofList]
    exact front.append ((visible_zeros _).append visible)
  · split
    · have back : Visible ".0".toList := point.append (.cons (by decide) visible_nil)
      simp only [String.toList_append, String.toList_ofList]
      exact (visible.append (visible_zeros _)).append back
    · simp only [String.toList_append, String.toList_ofList]
      have left := visible.of_subset fun c (mem : c ∈ digits.take whole.toNat) =>
        List.mem_of_mem_take mem
      have right := visible.of_subset fun c (mem : c ∈ digits.drop whole.toNat) =>
        List.mem_of_mem_drop mem
      exact (left.append point).append right

theorem visible_zeroPadded (width n : Nat) : Visible (Text.zeroPadded width n).toList := by
  rw [Text.zeroPadded, Text.fill, String.toList_append, String.toList_ofList, Nat.toString_eq_repr,
    Nat.toList_repr]
  exact (visible_zeros _).append (visible_toDigits n)

theorem visible_scientific {layout : Binary64.Layout} (mark : Visible layout.exponentMark.toList)
    {digits : List Char} (visible : Visible digits) (leading : Int) :
    Visible (layout.scientific digits leading).toList := by
  have first := visible.of_subset fun c (mem : c ∈ digits.take 1) => List.mem_of_mem_take mem
  have others := visible.of_subset fun c (mem : c ∈ digits.drop 1) => List.mem_of_mem_drop mem
  have fraction : Visible
      (if digits.length ≤ 1 then "" else "." ++ String.ofList (digits.drop 1)).toList := by
    split
    · exact visible_nil
    · simp only [String.toList_append, String.toList_ofList]
      exact .append (.cons (by decide) visible_nil) others
  have sign : Visible (if leading < 0 then "-" else "+").toList := by
    split
    · exact .cons (by decide) visible_nil
    · exact .cons (by decide) visible_nil
  simp only [Binary64.Layout.scientific, String.toList_append, String.toList_ofList]
  exact ((((first.append fraction).append mark).append sign).append (visible_zeroPadded _ _))

theorem visible_write (x : Binary64) : Visible (Binary64.Layout.record.write x).toList := by
  have mark : Visible Binary64.Layout.record.exponentMark.toList := .cons (by decide) visible_nil
  have sign : ∀ negative : Bool, Visible (if negative then "-" else "").toList := by decide
  cases x with
  | finite negative mantissa e =>
    rw [Binary64.Layout.write]
    split
    · rw [String.toList_append]
      exact (sign negative).append (by decide)
    · rw [String.toList_append]
      apply (sign negative).append
      rw [Binary64.Layout.decimal]
      split
      · exact visible_positional (visible_toDigits _) _
      · exact visible_scientific mark (visible_toDigits _) _
  | infinity negative =>
    rw [Binary64.Layout.write, String.toList_append]
    exact (sign negative).append (by decide)
  | nan => decide

/-! ### Containers -/

theorem visible_joined {parts : List (List Char)} (each : ∀ part ∈ parts, Visible part) :
    Visible (joined parts) := by
  induction parts with
  | nil => exact visible_nil
  | cons part parts ih =>
    have first := each part List.mem_cons_self
    cases parts with
    | nil => rwa [joined, List.intercalate_singleton]
    | cons next parts =>
      rw [joined_cons_cons]
      apply first.append
      apply Visible.cons (by decide)
      exact ih fun other mem => each other (List.mem_cons_of_mem _ mem)

mutual

/-- A value is written on one line, in printable ASCII characters. -/
theorem visible_print : ∀ j : Json, Visible j.print.toList
  | .null => by simp [print, Visible]
  | .bool b => by cases b <;> simp [print, Visible]
  | .number (.whole n) => visible_toString n
  | .number (.real x) => visible_write x
  | .text s => visible_quotedText s
  | .list items => by
    rw [toList_print_list]
    apply Visible.cons (by decide)
    apply Visible.append _ (.cons (by decide) visible_nil)
    apply visible_joined
    intro part mem
    obtain ⟨item, found, rfl⟩ := List.mem_map.mp mem
    exact visible_items items item found
  | .object members => by
    rw [toList_print_object]
    apply Visible.cons (by decide)
    apply Visible.append _ (.cons (by decide) visible_nil)
    apply visible_joined
    intro part mem
    obtain ⟨member, found, rfl⟩ := List.mem_map.mp mem
    exact (visible_quotedText member.1).append
      (.cons (by decide) (visible_members members member found))

theorem visible_items : ∀ items : List Json, ∀ item ∈ items, Visible item.print.toList
  | [] => by simp
  | item :: rest => List.forall_mem_cons.mpr ⟨visible_print item, visible_items rest⟩

theorem visible_members :
    ∀ members : List (String × Json), ∀ member ∈ members, Visible member.2.print.toList
  | [] => by simp
  | (_, value) :: rest => List.forall_mem_cons.mpr ⟨visible_print value, visible_members rest⟩

end

end NtpQuery.Json
