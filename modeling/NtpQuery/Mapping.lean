/-!
# Mappings that remember their order

Variable lists, counters and records show their entries in the order in which
the keys first arrived. A mapping is the list of its entries, each key once.
Writing to a present key changes its value in place; a new key goes to the
end, as `keys_update` says. `get?_update` says what is found afterwards.
-/

namespace NtpQuery

abbrev Mapping (κ α : Type) := List (κ × α)

namespace Mapping

variable {κ α : Type}

/-- Replaces the value of the first key that is the same, or adds the key at
the end. The new value is made from the old one, if there is one. -/
def updateBy (same : κ → κ → Bool) (key : κ) (f : Option α → α) : Mapping κ α → Mapping κ α
  | [] => [(key, f none)]
  | (k, v) :: rest =>
    if same k key then (k, f (some v)) :: rest else (k, v) :: updateBy same key f rest

def keys (mapping : Mapping κ α) : List κ :=
  mapping.map (·.1)

@[simp] theorem keys_nil : keys ([] : Mapping κ α) = [] := rfl

@[simp] theorem keys_cons (key : κ) (value : α) (rest : Mapping κ α) :
    keys ((key, value) :: rest) = key :: keys rest := rfl

variable [DecidableEq κ]

def update (key : κ) (f : Option α → α) (mapping : Mapping κ α) : Mapping κ α :=
  updateBy (fun k k' => decide (k = k')) key f mapping

def put (key : κ) (value : α) (mapping : Mapping κ α) : Mapping κ α :=
  mapping.update key fun _ => value

def get? (key : κ) (mapping : Mapping κ α) : Option α :=
  (mapping.find? fun entry => entry.1 = key).map (·.2)

/-- All entries written one after the other, so that later ones win. -/
def putAll (entries : List (κ × α)) (mapping : Mapping κ α) : Mapping κ α :=
  entries.foldl (fun m entry => m.put entry.1 entry.2) mapping

def ofEntries (entries : List (κ × α)) : Mapping κ α :=
  putAll entries []

/-- One more occurrence of the key. -/
def count (key : κ) (mapping : Mapping κ Nat) : Mapping κ Nat :=
  mapping.update key fun n => n.getD 0 + 1

@[simp] theorem putAll_nil (mapping : Mapping κ α) : mapping.putAll [] = mapping := rfl

@[simp] theorem putAll_cons (entry : κ × α) (entries : List (κ × α)) (mapping : Mapping κ α) :
    mapping.putAll (entry :: entries) = (mapping.put entry.1 entry.2).putAll entries := rfl

/-- A new key goes to the end; a present one leaves the keys as they are. -/
theorem keys_update (key : κ) (f : Option α → α) (mapping : Mapping κ α) :
    (mapping.update key f).keys =
      if key ∈ mapping.keys then mapping.keys else mapping.keys ++ [key] := by
  induction mapping with
  | nil => rfl
  | cons entry rest ih =>
    obtain ⟨k, v⟩ := entry
    by_cases h : k = key
    · simp [update, updateBy, h]
    · have hk : ¬ key = k := fun e => h e.symm
      have step : update key f ((k, v) :: rest) = (k, v) :: update key f rest := by
        simp [update, updateBy, h]
      rw [step, keys_cons, ih]
      by_cases hm : key ∈ keys rest <;> simp [hm, hk]

theorem nodup_keys_update (key : κ) (f : Option α → α) {mapping : Mapping κ α}
    (h : mapping.keys.Nodup) : (mapping.update key f).keys.Nodup := by
  rw [keys_update]
  split
  · exact h
  · rename_i hm
    refine List.nodup_append.mpr ⟨h, by simp, ?_⟩
    intro a ha b hb
    rw [List.mem_singleton.mp hb]
    rintro rfl
    exact hm ha

@[simp] theorem get?_nil (key : κ) : get? key ([] : Mapping κ α) = none := rfl

theorem get?_cons (key k : κ) (v : α) (rest : Mapping κ α) :
    get? key ((k, v) :: rest) = if k = key then some v else get? key rest := by
  by_cases h : k = key <;> simp [get?, h]

/-- The entry under the written key is the new one; every other key keeps its value. -/
theorem get?_update (key other : κ) (f : Option α → α) (mapping : Mapping κ α) :
    (mapping.update key f).get? other =
      if other = key then some (f (mapping.get? key)) else mapping.get? other := by
  induction mapping with
  | nil =>
    by_cases h : other = key
    · subst h; simp [update, updateBy, get?]
    · have : ¬ key = other := fun e => h e.symm
      simp [update, updateBy, get?, h, this]
  | cons entry rest ih =>
    obtain ⟨k, v⟩ := entry
    by_cases hk : k = key
    · subst hk
      by_cases h : other = k
      · subst h; simp [update, updateBy, get?_cons]
      · have : ¬ k = other := fun e => h e.symm
        simp [update, updateBy, get?_cons, h, this]
    · have step : update key f ((k, v) :: rest) = (k, v) :: update key f rest := by
        simp [update, updateBy, hk]
      rw [step, get?_cons, get?_cons, get?_cons, ih]
      by_cases h : other = key
      · subst h; simp [hk]
      · simp [h]

end Mapping

end NtpQuery
