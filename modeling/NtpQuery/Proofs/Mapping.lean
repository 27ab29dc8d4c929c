import NtpQuery.Mapping

/-!
# Entries with different keys

Writing entries one after the other keeps all of them when their keys differ.
What is found under a key does not depend on what else is done to the keys and
the values, as long as different keys stay different.
-/

namespace NtpQuery.Mapping

variable {κ α β : Type}

theorem keys_append (mapping others : Mapping κ α) :
    keys (mapping ++ others) = mapping.keys ++ others.keys :=
  List.map_append

variable [DecidableEq κ]

/-- A key that is not in front is written behind. -/
theorem put_append_of_not_mem {key : κ} {front : Mapping κ α} (absent : key ∉ front.keys)
    (value : α) (rest : Mapping κ α) :
    put key value (front ++ rest) = front ++ rest.put key value := by
  induction front with
  | nil => rfl
  | cons entry front ih =>
    obtain ⟨k, v⟩ := entry
    rw [keys_cons, List.mem_cons, not_or] at absent
    have step : put key value ((k, v) :: (front ++ rest)) =
        (k, v) :: put key value (front ++ rest) := by
      simp [put, update, updateBy, Ne.symm absent.1]
    rw [List.cons_append, step, ih absent.2, List.cons_append]

theorem put_of_not_mem {key : κ} {mapping : Mapping κ α} (absent : key ∉ mapping.keys)
    (value : α) : mapping.put key value = mapping ++ [(key, value)] := by
  have written := put_append_of_not_mem absent value []
  rwa [List.append_nil] at written

theorem putAll_append_of_not_mem {entries : List (κ × α)} {front : Mapping κ α}
    (absent : ∀ key ∈ keys entries, key ∉ front.keys) (rest : Mapping κ α) :
    putAll entries (front ++ rest) = front ++ rest.putAll entries := by
  induction entries generalizing rest with
  | nil => rfl
  | cons entry entries ih =>
    rw [putAll_cons, put_append_of_not_mem (absent entry.1 List.mem_cons_self), putAll_cons]
    exact ih (fun key mem => absent key (List.mem_cons_of_mem _ mem)) _

theorem mem_keys_putAll {key : κ} {entries : List (κ × α)} {mapping : Mapping κ α} :
    key ∈ (mapping.putAll entries).keys ↔ key ∈ mapping.keys ∨ key ∈ keys entries := by
  induction entries generalizing mapping with
  | nil => simp
  | cons entry entries ih =>
    obtain ⟨k, v⟩ := entry
    rw [putAll_cons, ih, put, keys_update, keys_cons, List.mem_cons]
    split
    · rename_i present
      constructor
      · rintro (mem | mem)
        · exact .inl mem
        · exact .inr (.inr mem)
      · rintro (mem | rfl | mem)
        · exact .inl mem
        · exact .inl present
        · exact .inr mem
    · rw [List.mem_append, List.mem_singleton, or_assoc]

theorem putAll_eq_append {entries mapping : Mapping κ α}
    (distinct : (keys (mapping ++ entries)).Nodup) :
    mapping.putAll entries = mapping ++ entries := by
  induction entries generalizing mapping with
  | nil => rw [putAll_nil, List.append_nil]
  | cons entry entries ih =>
    obtain ⟨key, value⟩ := entry
    rw [keys_append, keys_cons] at distinct
    have absent : key ∉ mapping.keys := by
      intro mem
      exact (List.nodup_append.mp distinct).2.2 key mem key List.mem_cons_self rfl
    rw [putAll_cons, put_of_not_mem absent, ih]
    · rw [List.append_assoc, List.singleton_append]
    · rwa [keys_append, keys_append, keys_cons, keys_nil, List.append_assoc, List.singleton_append]

theorem nodup_keys_putAll (entries : List (κ × α)) {mapping : Mapping κ α}
    (distinct : mapping.keys.Nodup) : (mapping.putAll entries).keys.Nodup := by
  induction entries generalizing mapping with
  | nil => exact distinct
  | cons entry entries ih => exact ih (nodup_keys_update entry.1 _ distinct)

theorem get?_append (key : κ) (mapping others : Mapping κ α) :
    get? key (mapping ++ others) = (mapping.get? key).or (others.get? key) := by
  rw [get?, List.find?_append, Option.map_or]
  rfl

/-- What is found under a key is what was written there last, or else what was there before. -/
theorem get?_putAll (key : κ) (entries : List (κ × α)) (mapping : Mapping κ α) :
    (mapping.putAll entries).get? key = (get? key entries.reverse).or (mapping.get? key) := by
  induction entries generalizing mapping with
  | nil => rfl
  | cons entry entries ih =>
    obtain ⟨k, v⟩ := entry
    rw [putAll_cons, ih, put, get?_update, List.reverse_cons, get?_append, get?_cons, get?_nil,
      Option.or_assoc]
    by_cases same : key = k
    · rw [if_pos same, if_pos same.symm]
      rfl
    · rw [if_neg same, if_neg (Ne.symm same)]
      rfl

theorem get?_eq_none_of_not_mem {key : κ} {mapping : Mapping κ α} (absent : key ∉ mapping.keys) :
    mapping.get? key = none := by
  induction mapping with
  | nil => rfl
  | cons entry rest ih =>
    obtain ⟨k, v⟩ := entry
    rw [keys_cons, List.mem_cons, not_or] at absent
    rw [get?_cons, if_neg (Ne.symm absent.1), ih absent.2]

theorem isSome_get? {key : κ} {mapping : Mapping κ α} :
    (mapping.get? key).isSome ↔ key ∈ mapping.keys := by
  rw [get?, Option.isSome_map, List.find?_isSome]
  simp [keys]

theorem mem_of_get? {key : κ} {value : α} {mapping : Mapping κ α}
    (found : mapping.get? key = some value) : (key, value) ∈ mapping := by
  obtain ⟨entry, listed, rfl⟩ := Option.map_eq_some_iff.mp found
  have named := List.find?_some listed
  obtain rfl : entry.1 = key := by simpa using named
  exact List.mem_of_find?_eq_some listed

/-! ### The last entry with a key -/

theorem get?_toList {key : κ} {entry : Option (κ × α)} {value : α} :
    get? key entry.toList = some value ↔ entry = some (key, value) := by
  cases entry with
  | none => simp
  | some entry =>
    obtain ⟨k, v⟩ := entry
    rw [Option.toList_some, get?_cons]
    by_cases same : k = key
    · simp [same]
    · simp [same]

variable {f : β → Option (κ × α)} {key : κ}

theorem get?_filterMap_cons (b : β) (rest : List β) :
    get? key ((b :: rest).filterMap f).reverse =
      (get? key (rest.filterMap f).reverse).or (get? key (f b).toList) := by
  rw [← get?_append]
  cases read : f b with
  | none => simp [read]
  | some entry => simp [read]

theorem get?_filterMap_eq_none {list : List β} :
    get? key (list.filterMap f).reverse = none ↔ ∀ b ∈ list, ∀ value, f b ≠ some (key, value) := by
  induction list with
  | nil => simp
  | cons b rest ih =>
    rw [get?_filterMap_cons, Option.or_eq_none_iff, ih, List.forall_mem_cons, and_comm,
      Option.eq_none_iff_forall_ne_some]
    simp only [ne_eq, get?_toList]

/-- What is found under a key in the order from the end is the last entry with this key. -/
theorem get?_filterMap_eq_some {list : List β} {value : α} :
    get? key (list.filterMap f).reverse = some value ↔
      ∃ earlier b later, list = earlier ++ b :: later ∧ f b = some (key, value) ∧
        ∀ other ∈ later, ∀ value', f other ≠ some (key, value') := by
  induction list with
  | nil => simp
  | cons b rest ih =>
    rw [get?_filterMap_cons, Option.or_eq_some_iff, ih, get?_filterMap_eq_none, get?_toList]
    constructor
    · rintro (⟨earlier, last, later, rfl, found⟩ | ⟨none, found⟩)
      · exact ⟨b :: earlier, last, later, rfl, found⟩
      · exact ⟨[], b, rest, rfl, found, none⟩
    · rintro ⟨earlier, last, later, parts, found, none⟩
      cases earlier with
      | nil =>
        obtain ⟨rfl, rfl⟩ := List.cons.inj parts
        exact .inr ⟨none, found⟩
      | cons first earlier =>
        exact .inl ⟨earlier, last, later, (List.cons.inj parts).2, found, none⟩

theorem get?_put_self (key : κ) (value : α) (mapping : Mapping κ α) :
    (mapping.put key value).get? key = some value := by
  rw [put, get?_update, if_pos rfl]

/-- Writing an entry changes nothing only where it stands already. -/
theorem put_eq_self_iff {key : κ} {value : α} {mapping : Mapping κ α} :
    mapping.put key value = mapping ↔ mapping.get? key = some value := by
  constructor
  · intro same
    rw [← same, get?_put_self]
  · intro found
    induction mapping with
    | nil => simp at found
    | cons entry rest ih =>
      obtain ⟨k, v⟩ := entry
      rw [get?_cons] at found
      by_cases here : k = key
      · rw [if_pos here] at found
        simp [put, update, updateBy, here, Option.some.inj found]
      · rw [if_neg here] at found
        have step : put key value ((k, v) :: rest) = (k, v) :: put key value rest := by
          simp [put, update, updateBy, here]
        rw [step, ih found]

/-- New keys go behind the old ones, each where it was written first. -/
theorem keys_putAll (entries : List (κ × α)) (mapping : Mapping κ α) :
    (mapping.putAll entries).keys =
      mapping.keys ++ ((keys entries).filter fun key => key ∉ mapping.keys).eraseDups := by
  induction entries generalizing mapping with
  | nil => simp
  | cons entry entries ih =>
    obtain ⟨k, v⟩ := entry
    rw [putAll_cons, ih, put, keys_update, keys_cons, List.filter_cons]
    by_cases present : k ∈ mapping.keys
    · simp [present]
    · have later : ∀ key, decide (key ∉ mapping.keys ++ [k]) =
          (!(key == k) && decide (key ∉ mapping.keys)) := by
        intro key
        by_cases same : key = k <;> simp [same]
      simp only [present, if_false, not_false_eq_true, decide_true, if_true, later,
        List.eraseDups_cons, List.filter_filter, List.append_assoc, List.singleton_append]

theorem ofEntries_eq_self {entries : Mapping κ α} (distinct : entries.keys.Nodup) :
    ofEntries entries = entries :=
  putAll_eq_append (by rwa [List.nil_append])

/-- Values may be computed from the entries. -/
theorem get?_map (f : κ → α → β) (key : κ) (mapping : Mapping κ α) :
    get? key (mapping.map fun entry => (entry.1, f entry.1 entry.2)) =
      (mapping.get? key).map (f key) := by
  induction mapping with
  | nil => rfl
  | cons entry rest ih =>
    obtain ⟨k, v⟩ := entry
    rw [List.map_cons, get?_cons, get?_cons, ih]
    split
    · rename_i same
      rw [same, Option.map_some]
    · rfl

end NtpQuery.Mapping
