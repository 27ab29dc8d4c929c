import NtpQuery.Proofs.VariableList.Peer

/-!
# The end of a list

A list is closed by a terminator of up to two characters. Where one stands, as
servers send it, the last variable is read like any other: `read_terminated`. A
comma behind the last variable shields it in the same way.

Without either, the end of the variable is taken for the terminator when its
last character but one is a blank, and two characters go, whatever the last one
is. `read_closed` says when this makes a difference.
-/

namespace NtpQuery

namespace VariableList

/-! ### What is read behind a comma -/

/-- The entries of the segments behind a comma. -/
def laterEntries (group : String) (rest : List Char) : List (String × String) :=
  (trimLater (Text.split ',' rest)).filterMap (assignment? group)

theorem trimLater_append_of_ne_nil (front : List (List Char)) {others : List (List Char)}
    (more : others ≠ []) :
    trimLater (front ++ others) = front.map dropSpacing ++ trimLater others := by
  induction front with
  | nil => rfl
  | cons segment front ih =>
    have inner : ended (dropSpacing segment) (front ++ others) = dropSpacing segment := by
      simp [ended, more]
    rw [List.cons_append, trimLater_cons, inner, ih, List.map_cons, List.cons_append]

/-- The segments in front of a comma are read alike, whatever stands behind it. -/
theorem entries_append_comma (group : String) (text rest : List Char) :
    entries group (text ++ ',' :: rest) =
      entries group (text ++ [',']) ++ laterEntries group rest := by
  obtain ⟨first, others, parts⟩ := List.exists_cons_of_ne_nil (Text.split_ne_nil ',' text)
  have cut : ∀ behind, trimmed (Text.split ',' (text ++ ',' :: behind)) =
      first :: others.map dropSpacing ++ trimLater (Text.split ',' behind) := by
    intro behind
    have more := Text.split_ne_nil ',' behind
    have inner : ended first (others ++ Text.split ',' behind) = first := by simp [ended, more]
    rw [Text.split_append_cons, parts, List.cons_append, trimmed_cons, inner,
      trimLater_append_of_ne_nil others more, List.cons_append]
  have empty : trimLater (Text.split ',' []) = [[]] := rfl
  rw [entries, entries, cut, cut, List.filterMap_append, List.filterMap_append, empty, laterEntries]
  simp [assignment?]

theorem read_append_comma (group : String) (known : Mapping String String) (text rest : String) :
    read (text ++ "," ++ rest) group known =
      (read (text ++ ",") group known).putAll (laterEntries group rest.toList) := by
  have comma : (",":String).toList = [','] := rfl
  rw [read, read, String.toList_append, String.toList_append, comma, List.append_assoc,
    List.singleton_append, entries_append_comma]
  exact List.foldl_append

/-- The last segment loses what is taken for the terminator. -/
theorem laterEntries_last (group : String) {segment : List Char} (comma : ',' ∉ segment) :
    laterEntries group segment =
      (assignment? group (dropTerminator (dropSpacing segment))).toList := by
  rw [laterEntries, Text.split_eq_singleton comma, trimLater]
  cases read : assignment? group (dropTerminator (dropSpacing segment)) with
  | none => simp [read]
  | some entry => simp [read]

/-- A segment that a comma ends is read whole. -/
theorem laterEntries_closed (group : String) {segment : List Char} (comma : ',' ∉ segment) :
    laterEntries group (segment ++ [',']) = (assignment? group (dropSpacing segment)).toList := by
  have parts : Text.split ',' (segment ++ [',']) = [segment, []] := by
    rw [Text.split_append_cons, Text.split_eq_singleton comma]
    rfl
  have empty : assignment? group (dropTerminator (dropSpacing [])) = none := rfl
  rw [laterEntries, parts, trimLater_cons, trimLater]
  cases read : assignment? group (dropSpacing segment) with
  | none => simp [ended, read, empty]
  | some entry => simp [ended, read, empty]

/-! ### What the terminator takes -/

theorem dropSpacing_append_of_ne_nil {front : List Char} (visible : dropSpacing front ≠ [])
    (rest : List Char) : dropSpacing (front ++ rest) = dropSpacing front ++ rest := by
  rw [dropSpacing, List.dropWhile_append, if_neg]
  · rfl
  · simpa [dropSpacing] using visible

theorem dropSpacing_append_of_eq_nil {front : List Char} (blank : dropSpacing front = [])
    (rest : List Char) : dropSpacing (front ++ rest) = dropSpacing rest :=
  List.dropWhile_append_of_pos (List.dropWhile_eq_nil_iff.mp blank)

theorem mem_dropSpacing {c : Char} (visible : Text.isSpacing c = false) {segment : List Char} :
    c ∈ dropSpacing segment ↔ c ∈ segment := by
  constructor
  · exact fun mem => (List.dropWhile_suffix _).subset mem
  · intro mem
    rw [← List.takeWhile_append_dropWhile (p := Text.isSpacing) (l := segment)] at mem
    rcases List.mem_append.mp mem with blank | kept
    · rw [List.mem_takeWhile_imp blank] at visible
      simp at visible
    · exact kept

/-- A segment whose last character stands behind a blank that is no leading one. -/
def Clipped (segment : List Char) : Prop :=
  ∃ front blank last, segment = front ++ [blank, last] ∧ Text.isSpacing blank = true ∧
    dropSpacing front ≠ []

theorem dropTerminator_of_not_clipped {segment : List Char}
    (visible : ∃ last ∈ segment.getLast?, Text.isSpacing last = false)
    (whole : ¬ Clipped segment) :
    dropTerminator (dropSpacing segment) = dropSpacing segment := by
  obtain ⟨last, ends, shown⟩ := visible
  obtain ⟨front, rfl⟩ := List.getLast?_eq_some_iff.mp ends
  rcases List.eq_nil_or_concat' front with rfl | ⟨front, previous, rfl⟩
  · simp [dropSpacing, dropTerminator, shown]
  · rw [List.append_assoc, List.singleton_append]
    by_cases begun : dropSpacing front = []
    · rw [dropSpacing_append_of_eq_nil begun]
      cases blank : Text.isSpacing previous with
      | true => simp [dropSpacing, dropTerminator, blank, shown]
      | false => simp [dropSpacing, dropTerminator, blank, shown]
    · have blank : Text.isSpacing previous = false := by
        by_contra spacing
        exact whole ⟨front, previous, last, by simp, by simpa using spacing, begun⟩
      rw [dropSpacing_append_of_ne_nil begun, dropTerminator_append_pair]
      simp [blank, shown]

/-- Carriage return and line feed are all that the terminator takes. -/
theorem dropTerminator_terminated (segment : List Char) :
    dropTerminator (dropSpacing (segment ++ ['\r', '\n'])) = dropSpacing segment := by
  have blank : Text.isSpacing '\r' = true := by decide
  by_cases begun : dropSpacing segment = []
  · rw [dropSpacing_append_of_eq_nil begun, begun]
    rfl
  · rw [dropSpacing_append_of_ne_nil begun, dropTerminator_append_pair, if_pos blank]

theorem read_terminated (group : String) (known : Mapping String String) (text : String)
    {segment : String} (comma : ',' ∉ segment.toList) :
    read (text ++ "," ++ (segment ++ "\r\n")) group known =
      read (text ++ "," ++ (segment ++ ",")) group known := by
  have terminator : ("\r\n" : String).toList = ['\r', '\n'] := rfl
  have closing : ("," : String).toList = [','] := rfl
  have comma' : ',' ∉ segment.toList ++ ['\r', '\n'] := by simp [comma]
  rw [read_append_comma, read_append_comma, String.toList_append, String.toList_append, terminator,
    closing, laterEntries_last group comma', laterEntries_closed group comma,
    dropTerminator_terminated]

/-! ### What is lost with it -/

theorem assignment?_eq_none (group : String) {segment : List Char} (absent : '=' ∉ segment) :
    assignment? group segment = none :=
  if_neg absent

/-- Two entries of a name leave the same behind only when their values are the same. -/
theorem put_inj {name : String} {value value' : List Char} {known : Mapping String String} :
    known.put name (String.ofList value) = known.put name (String.ofList value') ↔
      value = value' := by
  constructor
  · intro same
    have found := Mapping.get?_put_self name (String.ofList value) known
    rw [same, Mapping.get?_put_self, Option.some.injEq, String.ofList_inj] at found
    exact found.symm
  · rintro rfl
    rfl

variable {segment : String} {front : List Char} {blank last : Char}

/-- Where the blank is no leading one, it and the last character go. -/
theorem laterEntries_clipped (group : String) (comma : ',' ∉ front ++ [blank, last])
    (spacing : Text.isSpacing blank = true) (begun : dropSpacing front ≠ []) :
    laterEntries group (front ++ [blank, last]) =
      (assignment? group (dropSpacing front)).toList := by
  rw [laterEntries_last group comma, dropSpacing_append_of_ne_nil begun,
    dropTerminator_append_pair, if_pos spacing]

/-- A clipped segment is read as if it ended in front of the blank. -/
theorem read_clipped (group : String) (known : Mapping String String) (text : String)
    (comma : ',' ∉ segment.toList) (parts : segment.toList = front ++ [blank, last])
    (spacing : Text.isSpacing blank = true) (begun : dropSpacing front ≠ []) :
    read (text ++ "," ++ segment) group known =
      read (text ++ "," ++ (String.ofList front ++ ",")) group known := by
  have closing : ("," : String).toList = [','] := rfl
  rw [parts] at comma
  have comma' : ',' ∉ front := fun mem => comma (List.mem_append_left _ mem)
  rw [read_append_comma, read_append_comma, String.toList_append, String.toList_ofList, closing,
    parts, laterEntries_clipped group comma spacing begun, laterEntries_closed group comma']

/-- It makes no difference only where the segment is skipped anyway, or where an equals sign is what
is lost and the variable is already known without a value. -/
theorem read_clipped_eq_iff (group : String) (known : Mapping String String) (text : String)
    (comma : ',' ∉ segment.toList) (parts : segment.toList = front ++ [blank, last])
    (spacing : Text.isSpacing blank = true) (begun : dropSpacing front ≠ []) :
    read (text ++ "," ++ segment) group known =
        read (text ++ "," ++ (segment ++ ",")) group known ↔
      '=' ∉ segment.toList ∨ '=' ∉ front ∧
        (read (text ++ ",") group known).get? (key group (dropSpacing front ++ [blank])) =
          some "" := by
  have closing : ("," : String).toList = [','] := rfl
  have notBlank : '=' ≠ blank := by
    rintro rfl
    exact absurd spacing (by decide)
  have kept : '=' ∈ dropSpacing front ↔ '=' ∈ front := mem_dropSpacing (by decide)
  rw [parts] at comma ⊢
  rw [read_append_comma, read_append_comma, String.toList_append, closing, parts,
    laterEntries_clipped group comma spacing begun, laterEntries_closed group comma,
    dropSpacing_append_of_ne_nil begun]
  generalize read (text ++ ",") group known = before
  by_cases named : '=' ∈ front
  · obtain ⟨name, value, whole, absent⟩ := List.eq_append_cons_of_mem (kept.mpr named)
    have behind : dropSpacing front ++ [blank, last] = name ++ '=' :: (value ++ [blank, last]) := by
      rw [whole, List.append_assoc, List.cons_append]
    rw [behind, whole, assignment?_append group _ absent, assignment?_append group _ absent]
    refine iff_of_false ?_ (by simp [named])
    intro same
    have values := put_inj.mp same
    simp at values
  · have nameless : '=' ∉ dropSpacing front := fun mem => named (kept.mp mem)
    rw [assignment?_eq_none group nameless]
    by_cases equals : last = '='
    · have whole : dropSpacing front ++ [blank, last] = (dropSpacing front ++ [blank]) ++ '=' :: [] := by
        rw [equals, List.append_assoc, List.singleton_append]
      rw [whole, assignment?_append group [] (by simp [nameless, notBlank])]
      have written : before.putAll (some (key group (dropSpacing front ++ [blank]),
          String.ofList [])).toList = before.put (key group (dropSpacing front ++ [blank])) "" := rfl
      rw [written, Option.toList_none, Mapping.putAll_nil, eq_comm, Mapping.put_eq_self_iff]
      simp [named, equals]
    · have absent : '=' ∉ dropSpacing front ++ [blank, last] := by
        simp [nameless, notBlank, Ne.symm equals]
      rw [assignment?_eq_none group absent]
      simp [named, notBlank, Ne.symm equals]

/-- A variable at the end of a list is read like one in front of a comma when a terminator stands
behind it, or when its last character is no blank and stands behind none. A last character behind a
blank goes with the blank, and the variable is read without them. -/
theorem read_closed (text segment group : String) (known : Mapping String String)
    (comma : ',' ∉ segment.toList) :
    let inside := read (text ++ "," ++ (segment ++ ",")) group known
    read (text ++ "," ++ (segment ++ "\r\n")) group known = inside ∧
      ((∃ last ∈ segment.toList.getLast?, Text.isSpacing last = false) →
        ¬ Clipped segment.toList → read (text ++ "," ++ segment) group known = inside) ∧
      ∀ front blank last, segment.toList = front ++ [blank, last] →
        Text.isSpacing blank = true → dropSpacing front ≠ [] →
          read (text ++ "," ++ segment) group known =
              read (text ++ "," ++ (String.ofList front ++ ",")) group known ∧
            (read (text ++ "," ++ segment) group known = inside ↔
              '=' ∉ segment.toList ∨ '=' ∉ front ∧
                (read (text ++ ",") group known).get? (key group (dropSpacing front ++ [blank])) =
                  some "") := by
  intro inside
  refine ⟨read_terminated group known text comma, ?_, ?_⟩
  · intro visible whole
    have closing : ("," : String).toList = [','] := rfl
    show _ = read (text ++ "," ++ (segment ++ ",")) group known
    rw [read_append_comma, read_append_comma, String.toList_append, closing,
      laterEntries_last group comma, laterEntries_closed group comma,
      dropTerminator_of_not_clipped visible whole]
  · intro front blank last parts spacing begun
    exact ⟨read_clipped group known text comma parts spacing begun,
      read_clipped_eq_iff group known text comma parts spacing begun⟩

/-- An equals sign behind a blank, of a variable that is known without a value: losing it makes no
difference. -/
theorem read_closed_spared :
    ',' ∉ "  a =".toList ∧
      read ("a =" ++ "," ++ ("  a =" ++ "\r\n")) "sys" [] =
        read ("a =" ++ "," ++ ("  a =" ++ ",")) "sys" [] ∧
      read ("a =" ++ "," ++ "  a =") "sys" [] =
        read ("a =" ++ "," ++ ("  a =" ++ ",")) "sys" [] := by
  have comma : ',' ∉ "  a =".toList := by decide +kernel
  obtain ⟨terminated, -, clipped⟩ := read_closed "a =" "  a =" "sys" [] comma
  obtain ⟨-, alike⟩ := clipped [' ', ' ', 'a'] ' ' '=' rfl (by decide) (by decide)
  refine ⟨comma, terminated, alike.mpr (.inr ⟨by decide, ?_⟩)⟩
  decide +kernel

/-- A value of two words whose second has one character is cut at the end of a list, and a variable
without a value whose name ends with a blank is lost there. -/
theorem read_unclosed_apart :
    (read ("a=1" ++ "," ++ "b=2 3") "sys" [] = [("sys.a", "1"), ("sys.b", "2")] ∧
      read ("a=1" ++ "," ++ ("b=2 3" ++ ",")) "sys" [] = [("sys.a", "1"), ("sys.b", "2 3")]) ∧
    (read ("a=1" ++ "," ++ "b =") "sys" [] = [("sys.a", "1")] ∧
      read ("a=1" ++ "," ++ ("b =" ++ ",")) "sys" [] = [("sys.a", "1"), ("sys.b ", "")]) ∧
    ¬ ∀ text segment group : String, ',' ∉ segment.toList →
      (∃ last ∈ segment.toList.getLast?, Text.isSpacing last = false) →
        read (text ++ "," ++ segment) group [] =
          read (text ++ "," ++ (segment ++ ",")) group [] := by
  refine ⟨by decide +kernel, by decide +kernel, ?_⟩
  intro law
  have same := law "a=1" "b=2 3" "sys" (by decide +kernel) ⟨'3', by decide +kernel, by decide⟩
  revert same
  decide +kernel

end VariableList

end NtpQuery
