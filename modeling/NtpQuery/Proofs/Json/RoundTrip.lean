import NtpQuery.Proofs.Json.Token
import NtpQuery.Proofs.Mapping

/-!
# Reading what was written as JSON

A value without doubles is read back from its text as it was: `parse_print`.
Members need different names, numbers no more digits than a numeral may have,
and containers may be nested only so deep; `Plain` says so.

The reader goes through the text once. So it is enough to know, of each part,
what reading takes off a text that starts with the part.
-/

namespace NtpQuery.Json

/-- A value that can be read back, with so many levels of containers at most. -/
inductive Plain : Nat → Json → Prop
  | null {depth : Nat} : Plain depth .null
  | bool {depth : Nat} {b : Bool} : Plain depth (.bool b)
  | whole {depth : Nat} {n : Int} (short : n.natAbs < 10 ^ Text.Numeral.maxDigits) :
      Plain depth (.whole n)
  | text {depth : Nat} {s : String} : Plain depth (.text s)
  | list {depth : Nat} {items : List Json} (plain : ∀ item ∈ items, Plain depth item) :
      Plain (depth + 1) (.list items)
  | object {depth : Nat} {members : List (String × Json)}
      (distinct : (Mapping.keys members).Nodup)
      (plain : ∀ member ∈ members, Plain depth member.2) : Plain (depth + 1) (.object members)

/-! ### What is written -/

theorem printItems_eq (items : List Json) : printItems items = items.map print := by
  induction items with
  | nil => rfl
  | cons item items ih => rw [printItems, ih, List.map_cons]

/-- The text of a member. -/
def memberText (member : String × Json) : List Char :=
  (quotedText member.1).toList ++ ':' :: member.2.print.toList

theorem printMembers_eq (members : List (String × Json)) :
    (printMembers members).map String.toList = members.map memberText := by
  induction members with
  | nil => rfl
  | cons member members ih => simp [printMembers, ih, memberText]

/-- Texts with commas between them. -/
def joined (parts : List (List Char)) : List Char :=
  [','].intercalate parts

theorem toList_print_list (items : List Json) :
    (Json.list items).print.toList =
      '[' :: (joined (items.map fun item => item.print.toList) ++ [']']) := by
  simp [print, printItems_eq, joined, Function.comp_def]

theorem toList_print_object (members : List (String × Json)) :
    (Json.object members).print.toList =
      '\x7b' :: (joined (members.map memberText) ++ ['\x7d']) := by
  simp [print, printMembers_eq, joined]

/-- The text of a value starts neither with white space nor with the end of a list. -/
theorem Plain.head {depth : Nat} {j : Json} (plain : j.Plain depth) :
    ∃ c tail, j.print.toList = c :: tail ∧ isSpace c = false ∧ c ≠ ']' := by
  cases plain with
  | null => exact ⟨'n', "ull".toList, rfl, rfl, by decide⟩
  | @bool _ b =>
    cases b with
    | false => exact ⟨'f', "alse".toList, rfl, rfl, by decide⟩
    | true => exact ⟨'t', "rue".toList, rfl, rfl, by decide⟩
  | @whole _ n =>
    obtain ⟨c, tail, text, other⟩ := head_toString n
    refine ⟨c, tail, text, ?_, other _ (by decide) rfl⟩
    simp only [isSpace, Bool.or_eq_false_iff, decide_eq_false_iff_not]
    exact ⟨⟨⟨other _ (by decide) rfl, other _ (by decide) rfl⟩, other _ (by decide) rfl⟩,
      other _ (by decide) rfl⟩
  | text => exact ⟨'"', _, toList_quotedText _, rfl, by decide⟩
  | list => exact ⟨'[', _, toList_print_list _, rfl, by decide⟩
  | object => exact ⟨'\x7b', _, toList_print_object _, rfl, by decide⟩

/-! ### What is read -/

/-- A value is read off any text that starts with it, with fuel for its characters. -/
def Reads (depth : Nat) (j : Json) : Prop :=
  ∀ fuel rest, j.print.toList.length < fuel → Behind rest →
    value fuel depth (j.print.toList ++ rest) = .ok (j, rest)

theorem value_of_scalar {c : Char} (quote : c ≠ '"') (bracket : c ≠ '[') (brace : c ≠ '\x7b')
    (fuel depth : Nat) (rest : List Char) :
    value (fuel + 1) depth (c :: rest) = scalar (c :: rest) := by
  rw [value]
  · simp [quote]
  · simp [bracket]
  · simp [bracket]
  · simp [brace]
  · simp [brace]

theorem reads_whole {n : Int} (short : n.natAbs < 10 ^ Text.Numeral.maxDigits) (depth : Nat) :
    Reads depth (.whole n) := by
  intro fuel rest enough behind
  obtain ⟨fuel, rfl⟩ : ∃ more, fuel = more + 1 := ⟨fuel - 1, by omega⟩
  obtain ⟨c, tail, text, other⟩ := head_toString n
  have read := scalar_toString short behind
  show value (fuel + 1) depth ((toString n).toList ++ rest) = _
  rw [text, List.cons_append] at read ⊢
  rw [value_of_scalar (other _ (by decide) rfl) (other _ (by decide) rfl)
    (other _ (by decide) rfl), read]

theorem reads_text (s : String) (depth : Nat) : Reads depth (.text s) := by
  intro fuel rest enough behind
  obtain ⟨fuel, rfl⟩ : ∃ more, fuel = more + 1 := ⟨fuel - 1, by omega⟩
  show value (fuel + 1) depth ((quotedText s).toList ++ rest) = _
  rw [toList_quotedText, List.cons_append, List.append_assoc, List.singleton_append, value,
    textBody_quotedText]
  rfl

theorem reads_literal {j : Json} {c : Char} {tail : List Char}
    (printed : j.print.toList = c :: tail) (plain : c ≠ '"' ∧ c ≠ '[' ∧ c ≠ '\x7b')
    (read : ∀ rest, scalar (c :: (tail ++ rest)) = .ok (j, rest)) (depth : Nat) :
    Reads depth j := by
  intro fuel rest enough behind
  obtain ⟨fuel, rfl⟩ : ∃ more, fuel = more + 1 := ⟨fuel - 1, by omega⟩
  obtain ⟨quote, bracket, brace⟩ := plain
  rw [printed, List.cons_append, value_of_scalar quote bracket brace, read]

theorem joined_cons_cons (part next : List Char) (parts : List (List Char)) :
    joined (part :: next :: parts) = part ++ ',' :: joined (next :: parts) := by
  rw [joined, List.intercalate_cons_cons, List.append_assoc, List.singleton_append]
  rfl

/-- Texts with commas between them start as the first one does. -/
theorem joined_eq_cons {c : Char} {tail : List Char} (parts : List (List Char)) :
    ∃ more, joined ((c :: tail) :: parts) = c :: more := by
  cases parts with
  | nil => exact ⟨tail, List.intercalate_singleton⟩
  | cons next parts => exact ⟨_, joined_cons_cons _ _ _⟩

/-- Items are read up to the end of their list. -/
theorem items_joined {depth : Nat} {all : List Json} (nonempty : all ≠ [])
    (plain : ∀ item ∈ all, item.Plain depth) (reads : ∀ item ∈ all, Reads depth item)
    {fuel : Nat} (enough : (joined (all.map fun item => item.print.toList)).length + 2 ≤ fuel)
    (readRev : List Json) (rest : List Char) :
    items fuel depth readRev (joined (all.map fun item => item.print.toList) ++ ']' :: rest) =
      .ok (.list (readRev.reverse ++ all), rest) := by
  -- Each item takes its characters and one comma off the fuel for the others.
  induction all generalizing fuel readRev with
  | nil => contradiction
  | cons item others ih =>
    obtain ⟨fuel, rfl⟩ : ∃ more, fuel = more + 1 := ⟨fuel - 1, by omega⟩
    have read := reads item List.mem_cons_self
    cases others with
    | nil =>
      simp only [List.map_cons, List.map_nil, joined, List.intercalate_singleton] at enough ⊢
      rw [items, read fuel _ (by omega) (by simp [Behind])]
      simp [skipSpace, isSpace]
    | cons next others =>
      obtain ⟨c, tail, starts, solid, -⟩ := (plain next (by simp)).head
      have later := fun fuel enough => @ih (by simp)
        (fun other mem => plain other (List.mem_cons_of_mem _ mem))
        (fun other mem => reads other (List.mem_cons_of_mem _ mem)) fuel enough (item :: readRev)
      simp only [List.map_cons] at enough later ⊢
      rw [joined_cons_cons, List.length_append, List.length_cons] at enough
      obtain ⟨more, first⟩ := @joined_eq_cons c tail (others.map fun item => item.print.toList)
      rw [← starts] at first
      rw [joined_cons_cons, List.append_assoc, List.cons_append, items,
        read fuel _ (by omega) (by simp [Behind])]
      simp only [skipSpace_of_head (show isSpace ',' = false from rfl)]
      rw [first, List.cons_append, skipSpace_of_head solid, ← List.cons_append, ← first,
        later fuel (by omega)]
      simp

theorem reads_list {depth : Nat} {all : List Json} (plain : ∀ item ∈ all, item.Plain depth)
    (reads : ∀ item ∈ all, Reads depth item) : Reads (depth + 1) (.list all) := by
  intro fuel rest enough behind
  rw [toList_print_list, List.length_cons, List.length_append, List.length_singleton] at enough
  obtain ⟨fuel, rfl⟩ : ∃ more, fuel = more + 1 := ⟨fuel - 1, by omega⟩
  rw [toList_print_list, List.cons_append, List.append_assoc, List.singleton_append]
  cases all with
  | nil => rfl
  | cons item others =>
    obtain ⟨c, tail, starts, solid, notEnd⟩ := (plain item List.mem_cons_self).head
    have run := items_joined (List.cons_ne_nil item others) plain reads
      (show _ ≤ fuel by omega) [] rest
    obtain ⟨more, first⟩ := @joined_eq_cons c tail (others.map fun item => item.print.toList)
    rw [List.map_cons, starts, first, List.cons_append] at run ⊢
    rw [value]
    simp only [skipSpace_of_head solid]
    split
    · rename_i ended
      exact absurd (List.cons.inj ended).1 notEnd
    · exact run

/-- What is read behind a member. -/
def behindMember (fuel depth : Nat) (readRev : List (String × Json)) : List Char → Step Json
  | ',' :: rest => members fuel depth readRev (skipSpace rest)
  | '\x7d' :: rest => .ok (.object (Mapping.ofEntries readRev.reverse), rest)
  | _ => .error .malformed

/-- A member is read up to what stands behind it. -/
theorem members_memberText {depth : Nat} {member : String × Json}
    (plain : member.2.Plain depth) (reads : Reads depth member.2) {fuel : Nat}
    (enough : (memberText member).length ≤ fuel) (readRev : List (String × Json))
    {rest : List Char} (behind : Behind rest) :
    members (fuel + 1) depth readRev (memberText member ++ rest) =
      behindMember fuel depth (member :: readRev) rest := by
  obtain ⟨name, item⟩ := member
  have text : memberText (name, item) ++ rest =
      '"' :: (name.toList.flatMap escapedChar ++ '"' :: ':' :: (item.print.toList ++ rest)) := by
    simp [memberText, toList_quotedText]
  obtain ⟨c, tail, starts, solid, -⟩ := plain.head
  have short : item.print.toList.length < fuel := by
    simp only [memberText, List.length_append, List.length_cons] at enough
    have quoted : 0 < (quotedText name).toList.length := by simp [toList_quotedText]
    omega
  have read := reads fuel rest short behind
  rw [text, members]
  simp only [textBody_quotedText, skipSpace_of_head (show isSpace ':' = false from rfl)]
  rw [starts, List.cons_append] at read ⊢
  simp only [skipSpace_of_head solid, read, skipSpace_behind behind]
  rfl

/-- Members are read up to the end of their object. -/
theorem members_joined {depth : Nat} {all : List (String × Json)} (nonempty : all ≠ [])
    (plain : ∀ member ∈ all, member.2.Plain depth)
    (reads : ∀ member ∈ all, Reads depth member.2)
    {fuel : Nat} (enough : (joined (all.map memberText)).length + 2 ≤ fuel)
    (readRev : List (String × Json)) (rest : List Char) :
    members fuel depth readRev (joined (all.map memberText) ++ '\x7d' :: rest) =
      .ok (.object (Mapping.ofEntries (readRev.reverse ++ all)), rest) := by
  induction all generalizing fuel readRev with
  | nil => contradiction
  | cons member others ih =>
    obtain ⟨fuel, rfl⟩ : ∃ more, fuel = more + 1 := ⟨fuel - 1, by omega⟩
    have first := @members_memberText depth member (plain member List.mem_cons_self)
      (reads member List.mem_cons_self) fuel
    cases others with
    | nil =>
      simp only [List.map_cons, List.map_nil, joined, List.intercalate_singleton] at enough ⊢
      rw [first (by omega) readRev (by simp [Behind])]
      simp [behindMember]
    | cons next others =>
      have later := fun fuel enough => @ih (by simp)
        (fun other mem => plain other (List.mem_cons_of_mem _ mem))
        (fun other mem => reads other (List.mem_cons_of_mem _ mem)) fuel enough
        (member :: readRev)
      simp only [List.map_cons] at enough later ⊢
      rw [joined_cons_cons, List.length_append, List.length_cons] at enough
      obtain ⟨tail, starts⟩ : ∃ tail, memberText next = '"' :: tail := by
        simp [memberText, toList_quotedText]
      obtain ⟨more, joins⟩ := @joined_eq_cons '"' tail (others.map memberText)
      rw [← starts] at joins
      rw [joined_cons_cons, List.append_assoc, List.cons_append,
        first (by omega) readRev (by simp [Behind]), behindMember]
      rw [joins, List.cons_append, skipSpace_of_head (show isSpace '"' = false from rfl),
        ← List.cons_append, ← joins, later fuel (by omega)]
      simp

theorem reads_object {depth : Nat} {all : List (String × Json)}
    (distinct : (Mapping.keys all).Nodup) (plain : ∀ member ∈ all, member.2.Plain depth)
    (reads : ∀ member ∈ all, Reads depth member.2) : Reads (depth + 1) (.object all) := by
  intro fuel rest enough behind
  rw [toList_print_object, List.length_cons, List.length_append, List.length_singleton] at enough
  obtain ⟨fuel, rfl⟩ : ∃ more, fuel = more + 1 := ⟨fuel - 1, by omega⟩
  rw [toList_print_object, List.cons_append, List.append_assoc, List.singleton_append]
  cases all with
  | nil => rfl
  | cons member others =>
    have run := members_joined (List.cons_ne_nil member others) plain reads
      (show _ ≤ fuel by omega) [] rest
    rw [List.reverse_nil, List.nil_append, Mapping.ofEntries_eq_self distinct] at run
    obtain ⟨tail, starts⟩ : ∃ tail, memberText member = '"' :: tail := by
      simp [memberText, toList_quotedText]
    obtain ⟨more, joins⟩ := @joined_eq_cons '"' tail (others.map memberText)
    rw [List.map_cons, starts, joins, List.cons_append] at run ⊢
    rw [value]
    simp only [skipSpace_of_head (show isSpace '"' = false from rfl)]
    exact run

/-- A plain value is read off any text that starts with its own. -/
theorem Plain.reads {depth : Nat} {j : Json} (plain : j.Plain depth) : Reads depth j := by
  induction plain with
  | null => exact reads_literal (c := 'n') rfl (by decide) (fun _ => rfl) _
  | @bool _ b =>
    cases b with
    | false => exact reads_literal (c := 'f') rfl (by decide) (fun _ => rfl) _
    | true => exact reads_literal (c := 't') rfl (by decide) (fun _ => rfl) _
  | whole short => exact reads_whole short _
  | text => exact reads_text _ _
  | list plain reads => exact reads_list plain reads
  | object distinct plain reads => exact reads_object distinct plain reads

/-- What is written is read back. -/
theorem parse_print {j : Json} (plain : j.Plain maxDepth) : parse j.print = .ok j := by
  obtain ⟨c, tail, starts, solid, -⟩ := plain.head
  have start : skipSpace j.print.toList = j.print.toList := by
    rw [starts, skipSpace_of_head solid]
  have read := plain.reads (j.print.toList.length + 1) [] (Nat.lt_succ_self _) (by simp [Behind])
  rw [List.append_nil] at read
  simp only [parse, start, read]
  rfl

end NtpQuery.Json
