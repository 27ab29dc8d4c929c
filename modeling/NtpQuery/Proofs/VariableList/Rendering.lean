import Mathlib.Data.List.Basic
import NtpQuery.Proofs.Mapping
import NtpQuery.VariableList

/-!
# Reading what was rendered

A list of variables is rendered with commas and blanks between the segments and
a terminator behind the last one. Reading gives every variable back with its
whole value, whatever else the values contain: `read_render`.

The three kinds of segments are trimmed differently. The first one keeps the
blanks in front of it, the ones behind lose the blanks that separate them, and
the last one loses the terminator besides. `trimmed_render` says that what is
left of each is its name, an equals sign and its value.
-/

namespace NtpQuery.VariableList

/-- A variable to be rendered: its name, its value and the blanks in front of the next one. -/
abbrev Segment := List Char × List Char × List Char

namespace Segment

/-- The text of a variable. -/
def text (segment : Segment) : List Char :=
  segment.1 ++ '=' :: segment.2.1

/-- The entry that a variable is read as. -/
def entry (group : String) (segment : Segment) : String × String :=
  (key group segment.1, String.ofList segment.2.1)

/-- A variable whose name and value can be told apart and do not end the segment. -/
structure IsSound (segment : Segment) : Prop where
  name_comma : ',' ∉ segment.1
  name_equals : '=' ∉ segment.1
  value_comma : ',' ∉ segment.2.1
  gap : ∀ c ∈ segment.2.2, Text.isSpacing c = true

/-- A variable whose name does not start with a blank, so that it can follow blanks. -/
def StartsVisibly (segment : Segment) : Prop :=
  ∀ c ∈ segment.1.head?, Text.isSpacing c = false

theorem isSound_iff {segment : Segment} :
    segment.IsSound ↔ (segment.1.all fun c => c ≠ ',' && c ≠ '=') ∧
      (segment.2.1.all fun c => c ≠ ',') ∧ segment.2.2.all Text.isSpacing := by
  simp only [List.all_eq_true, Bool.and_eq_true, decide_eq_true_eq]
  constructor
  · intro sound
    refine ⟨fun c mem => ⟨?_, ?_⟩, ?_, sound.gap⟩
    · rintro rfl
      exact sound.name_comma mem
    · rintro rfl
      exact sound.name_equals mem
    · rintro c mem rfl
      exact sound.value_comma mem
  · rintro ⟨name, value, gap⟩
    exact ⟨fun mem => (name _ mem).1 rfl, fun mem => (name _ mem).2 rfl,
      fun mem => value _ mem rfl, gap⟩

instance (segment : Segment) : Decidable segment.IsSound :=
  decidable_of_iff _ isSound_iff.symm

instance (segment : Segment) : Decidable segment.StartsVisibly :=
  decidable_of_iff (segment.1.head?.all fun c => Text.isSpacing c = false)
    (by rw [StartsVisibly]; cases segment.1.head? <;> simp)

end Segment

/-- Variables that can be rendered. Only the first name may start with a blank. -/
structure Renderable (segments : List Segment) : Prop where
  sound : ∀ segment ∈ segments, segment.IsSound
  visible : ∀ segment ∈ segments.tail, segment.StartsVisibly

variable {segment : Segment}

theorem comma_not_mem_text (sound : segment.IsSound) : ',' ∉ segment.text := by
  rw [Segment.text, List.mem_append, List.mem_cons]
  rintro (name | equals | value)
  · exact sound.name_comma name
  · exact absurd equals (by decide)
  · exact sound.value_comma value

theorem comma_not_mem_gap (sound : segment.IsSound) : ',' ∉ segment.2.2 := by
  intro mem
  exact absurd (sound.gap ',' mem) (by decide)

/-- Blanks in front of a text that starts with none are what is dropped. -/
theorem dropSpacing_append {gap text : List Char} (blank : ∀ c ∈ gap, Text.isSpacing c = true)
    (visible : ∀ c ∈ text.head?, Text.isSpacing c = false) :
    dropSpacing (gap ++ text) = text := by
  rw [dropSpacing, List.dropWhile_append_of_pos blank]
  cases text with
  | nil => rfl
  | cons c rest => rw [List.dropWhile_cons_of_neg (by simp [visible c rfl])]

theorem head_text (visible : segment.StartsVisibly) (behind : List Char) :
    ∀ c ∈ (segment.text ++ behind).head?, Text.isSpacing c = false := by
  obtain ⟨name, value, gap⟩ := segment
  cases name with
  | nil =>
    rintro _ ⟨⟩
    decide
  | cons c name => exact visible

theorem dropTerminator_text (segment : Segment) :
    dropTerminator (segment.text ++ ['\r', '\n']) = segment.text := by
  have blank : Text.isSpacing '\r' = true := by decide
  simp [dropTerminator, blank]

/-- What stands in front of the first equals sign is the name. -/
theorem assignment?_append (group : String) {name : List Char} (value : List Char)
    (absent : '=' ∉ name) :
    assignment? group (name ++ '=' :: value) = some (key group name, String.ofList value) := by
  have before : ∀ c ∈ name, decide (c ≠ '=') = true := by
    intro c mem
    exact decide_eq_true fun equals => absent (equals ▸ mem)
  rw [assignment?, if_pos (by simp), List.takeWhile_append_of_pos before,
    List.dropWhile_append_of_pos before]
  simp

theorem assignment?_text (group : String) (sound : segment.IsSound) :
    assignment? group segment.text = some (segment.entry group) :=
  assignment?_append group segment.2.1 sound.name_equals

/-! ### Cutting a rendered list -/

theorem render_cons (segment next : Segment) (rest : List Segment) :
    render (segment :: next :: rest) =
      segment.text ++ ',' :: (segment.2.2 ++ render (next :: rest)) := by
  simp [render, Segment.text]

/-- Text without a comma in front of a list goes with the first segment. -/
theorem split_append {text : List Char} (comma : ',' ∉ text) {list first : List Char}
    {others : List (List Char)} (parts : Text.split ',' list = first :: others) :
    Text.split ',' (text ++ list) = (text ++ first) :: others := by
  induction text with
  | nil => exact parts
  | cons c text ih =>
    rw [List.mem_cons, not_or] at comma
    rw [List.cons_append, Text.split, ih comma.2]
    simp only
    rw [if_neg (Ne.symm comma.1), List.cons_append]

/-- A segment that a comma ends is the first part. -/
theorem split_render_cons (sound : segment.IsSound) (next : Segment) (rest : List Segment) :
    Text.split ',' (render (segment :: next :: rest)) =
      segment.text :: Text.split ',' (segment.2.2 ++ render (next :: rest)) := by
  rw [render_cons, Text.split_append_cons, Text.split_eq_singleton (comma_not_mem_text sound)]
  rfl

theorem split_render_singleton (sound : segment.IsSound) :
    Text.split ',' (render [segment]) = [segment.text ++ ['\r', '\n']] := by
  have rendered : render [segment] = segment.text ++ ['\r', '\n'] := by
    simp [render, Segment.text]
  rw [rendered, Text.split_eq_singleton]
  rw [List.mem_append]
  rintro (text | terminator)
  · exact comma_not_mem_text sound text
  · exact absurd terminator (by decide)

/-- Behind a comma and blanks, the segments are read as the texts of the variables. -/
theorem trimLater_render {gap : List Char} (blank : ∀ c ∈ gap, Text.isSpacing c = true)
    {segments : List Segment} (nonempty : segments ≠ [])
    (sound : ∀ segment ∈ segments, segment.IsSound)
    (visible : ∀ segment ∈ segments, segment.StartsVisibly) :
    trimLater (Text.split ',' (gap ++ render segments)) = segments.map Segment.text := by
  have comma : ',' ∉ gap := fun mem => absurd (blank ',' mem) (by decide)
  induction segments generalizing gap with
  | nil => exact absurd rfl nonempty
  | cons segment rest ih =>
    have first := sound segment List.mem_cons_self
    have starts := visible segment List.mem_cons_self
    cases rest with
    | nil =>
      rw [split_append comma (split_render_singleton first), trimLater,
        dropSpacing_append blank (head_text starts _), dropTerminator_text]
      rfl
    | cons next rest =>
      have later := ih first.gap (by simp)
        (fun other mem => sound other (List.mem_cons_of_mem _ mem))
        (fun other mem => visible other (List.mem_cons_of_mem _ mem)) (comma_not_mem_gap first)
      have more := Text.split_ne_nil ',' (segment.2.2 ++ render (next :: rest))
      have head : ∀ c ∈ segment.text.head?, Text.isSpacing c = false := by
        simpa using head_text starts []
      rw [split_append comma (split_render_cons first next rest), trimLater,
        dropSpacing_append blank head, later]
      · rfl
      · exact more

/-- The segments of a rendered list are read as the texts of its variables. -/
theorem trimmed_render {segments : List Segment} (nonempty : segments ≠ [])
    (renderable : Renderable segments) :
    trimmed (Text.split ',' (render segments)) = segments.map Segment.text := by
  match segments with
  | [] => exact absurd rfl nonempty
  | [segment] =>
    rw [split_render_singleton (renderable.sound segment (by simp)), trimmed, dropTerminator_text]
    rfl
  | segment :: next :: rest =>
    have first := renderable.sound segment (by simp)
    have later := trimLater_render first.gap (by simp : next :: rest ≠ [])
      (fun other mem => renderable.sound other (List.mem_cons_of_mem _ mem))
      renderable.visible
    rw [split_render_cons first, trimmed, later]
    · rfl
    · exact Text.split_ne_nil ',' _

theorem entries_render (group : String) {segments : List Segment} (nonempty : segments ≠ [])
    (renderable : Renderable segments) :
    entries group (render segments) = segments.map (Segment.entry group) := by
  rw [entries, trimmed_render nonempty renderable, List.filterMap_map]
  apply List.filterMap_eq_map_iff_forall_eq_some.mpr
  intro segment mem
  exact assignment?_text group (renderable.sound segment mem)

/-- A rendered list is read back: the variables are added in order to those already known, the last
value of a key is what is found under it, and new keys stand where they were first written. -/
theorem read_render (group : String) (known : Mapping String String) (segments : List Segment)
    (nonempty : segments ≠ []) (renderable : Renderable segments) :
    let written := segments.map fun (name, value, _) => (key group name, String.ofList value)
    let found := read (String.ofList (render segments)) group known
    found = known.putAll written ∧
      (∀ name, found.get? name = (Mapping.get? name written.reverse).or (known.get? name)) ∧
      found.keys = known.keys ++
        ((Mapping.keys written).filter fun name => name ∉ known.keys).eraseDups := by
  intro written found
  have added : found = known.putAll written := by
    show read (String.ofList (render segments)) group known = _
    rw [read, String.toList_ofList, entries_render group nonempty renderable]
    rfl
  rw [added]
  exact ⟨rfl, fun name => Mapping.get?_putAll name written known, Mapping.keys_putAll written known⟩

/-- A variable that is written twice, two long names with one key, a name that is empty and values
with blanks, quotes and equals signs, added to a variable that is known already. -/
theorem read_render_colliding :
    let long := List.replicate 251 'n'
    let segments : List Segment :=
      [(" a".toList, "\"x y\" ".toList, " \t".toList), (long, ['1'], []),
       ([], "p=q".toList, ['\n']), ("b".toList, "2".toList, ['\x0b']), (long ++ ['m'], ['3'], []),
       ("b".toList, " \r\n".toList, [])]
    let known : Mapping String String := [("sys.b", "0")]
    (segments ≠ [] ∧ Renderable segments) ∧
      read (String.ofList (render segments)) "sys" known =
        [("sys.b", " \r\n"), ("sys. a", "\"x y\" "), ("sys." ++ String.ofList long, "3"),
         ("sys.", "p=q")] := by
  intro long segments known
  have nonempty : segments ≠ [] := by decide
  have renderable : Renderable segments := ⟨by decide +kernel, by decide +kernel⟩
  refine ⟨⟨nonempty, renderable⟩, ?_⟩
  rw [(read_render "sys" known segments nonempty renderable).1]
  decide +kernel

end NtpQuery.VariableList
