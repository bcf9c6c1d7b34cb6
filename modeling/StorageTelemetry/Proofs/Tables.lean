import Mathlib.Data.List.Induction
import Mathlib.Data.List.Nodup
import StorageTelemetry.Table

namespace StorageTelemetry

/-!
# Laws of finite tables

Looking up after putting or erasing, and what distinct keys add to that: the
value under a key is then the only entry of that key, and two tables with the
same lookups list the same entries up to their order.
-/

/-- Where keys are distinct, an entry is the one that is found under its key. -/
theorem find?_of_nodup {α κ : Type} [DecidableEq κ] (key : α → κ) {entries : List α}
    (distinct : (entries.map key).Nodup) {entry : α} (listed : entry ∈ entries) :
    entries.find? (fun other => key other = key entry) = some entry := by
  cases found : entries.find? fun other => key other = key entry with
  | none => simpa using List.find?_eq_none.mp found entry listed
  | some other =>
      have same : key other = key entry := by simpa using List.find?_some found
      rw [List.inj_on_of_nodup_map distinct (List.mem_of_find?_eq_some found) listed same]

namespace Table

variable {κ ν : Type}

/-- The keys in the order of the entries. -/
def keys (table : Table κ ν) : List κ := table.entries.map (·.1)

/-- No key has two entries. -/
def Distinct (table : Table κ ν) : Prop := table.keys.Nodup

theorem distinct_empty : (empty : Table κ ν).Distinct := List.nodup_nil

variable [DecidableEq κ]

theorem find?_putEntry (key other : κ) (value : ν) (entries : List (κ × ν)) :
    ((putEntry key value entries).find? fun entry => entry.1 = other).map (·.2) =
      if key = other then some value
      else (entries.find? fun entry => entry.1 = other).map (·.2) := by
  induction entries with
  | nil => by_cases same : key = other <;> simp [putEntry, same]
  | cons entry rest ih =>
      by_cases replaced : entry.1 = key
      · by_cases same : key = other
        · simp [putEntry, replaced, same]
        · simp [putEntry, replaced, same]
      · by_cases found : entry.1 = other
        · have different : key ≠ other := fun same => replaced (found.trans same.symm)
          rw [putEntry, if_neg replaced]
          simp only [List.find?_cons, found, decide_true, if_neg different]
        · simpa [putEntry, replaced, found] using ih

/-- A put is seen under its own key and nowhere else. -/
theorem get?_put (table : Table κ ν) (key other : κ) (value : ν) :
    (table.put key value).get? other =
      if key = other then some value else table.get? other :=
  find?_putEntry key other value table.entries

/-- An erased key has no value, and the other keys keep theirs. -/
theorem get?_erase (table : Table κ ν) (key other : κ) :
    (table.erase key).get? other = if key = other then none else table.get? other := by
  by_cases same : key = other
  · subst same
    simp [get?, erase]
  · have agree : ∀ entry : κ × ν,
        decide (decide (entry.1 ≠ key) = true ∧ decide (entry.1 = other) = true) =
          decide (entry.1 = other) := by
      intro entry
      by_cases found : entry.1 = other
      · simp [found, Ne.symm same]
      · simp [found]
    simp only [get?, erase, List.find?_filter, agree, if_neg same]

/-- What was put under a key goes with the key. -/
theorem erase_put_self (table : Table κ ν) (key : κ) (value : ν) :
    (table.put key value).erase key = table.erase key := by
  obtain ⟨entries⟩ := table
  simp only [put, erase, mk.injEq]
  induction entries with
  | nil => simp [putEntry]
  | cons entry rest ih =>
      by_cases replaced : entry.1 = key
      · simp [putEntry, replaced]
      · simpa [putEntry, replaced] using ih

/-- An erased key does not matter to a put under another one. -/
theorem erase_put (table : Table κ ν) {key other : κ} (value : ν) (different : key ≠ other) :
    (table.put key value).erase other = (table.erase other).put key value := by
  obtain ⟨entries⟩ := table
  simp only [put, erase, mk.injEq]
  induction entries with
  | nil => simp [putEntry, different]
  | cons entry rest ih =>
      by_cases replaced : entry.1 = key
      · simp [putEntry, replaced, different]
      · by_cases erased : entry.1 = other
        · simpa [putEntry, erased, Ne.symm different] using ih
        · simpa [putEntry, replaced, erased] using ih

/-- There is nothing to erase under a key without a value. -/
theorem erase_of_absent {table : Table κ ν} {key : κ} (absent : table.get? key = none) :
    table.erase key = table := by
  have missing := List.find?_eq_none.mp (Option.map_eq_none_iff.mp absent)
  have kept : table.entries.filter (fun entry => entry.1 ≠ key) = table.entries := by
    refine List.filter_eq_self.mpr fun entry listed => ?_
    simpa using missing entry listed
  exact congrArg mk kept

/-- Of several pairs with one key the last counts. -/
theorem get?_ofPairs (pairs : List (κ × ν)) (key : κ) :
    (ofPairs pairs).get? key = (pairs.reverse.find? fun pair => pair.1 = key).map (·.2) := by
  unfold ofPairs
  induction pairs using List.reverseRecOn with
  | nil => rfl
  | append_singleton earlier pair ih =>
      rw [List.foldl_append, List.foldl_cons, List.foldl_nil, get?_put, ih, List.reverse_append,
        List.reverse_singleton, List.singleton_append, List.find?_cons]
      by_cases same : pair.1 = key <;> simp [same]

theorem keys_putEntry (key : κ) (value : ν) (entries : List (κ × ν)) :
    (putEntry key value entries).map (·.1) =
      if key ∈ entries.map (·.1) then entries.map (·.1) else entries.map (·.1) ++ [key] := by
  induction entries with
  | nil => rfl
  | cons entry rest ih =>
      by_cases replaced : entry.1 = key
      · simp [putEntry, replaced]
      · by_cases known : key ∈ rest.map (·.1)
        · rw [if_pos known] at ih
          simp only [putEntry, if_neg replaced, List.map_cons, ih,
            if_pos (List.mem_cons_of_mem _ known)]
        · have unknown : key ∉ (entry :: rest).map (·.1) := by
            simpa only [List.map_cons, List.mem_cons, not_or] using ⟨Ne.symm replaced, known⟩
          rw [if_neg known] at ih
          simp only [putEntry, if_neg replaced, List.map_cons, ih, List.cons_append,
            if_neg (by simpa only [List.map_cons] using unknown)]

/-- A put adds its key at the end unless the key was there already. -/
theorem keys_put (table : Table κ ν) (key : κ) (value : ν) :
    (table.put key value).keys =
      if key ∈ table.keys then table.keys else table.keys ++ [key] :=
  keys_putEntry key value table.entries

theorem Distinct.put {table : Table κ ν} (distinct : table.Distinct) (key : κ) (value : ν) :
    (table.put key value).Distinct := by
  unfold Distinct
  rw [keys_put]
  by_cases known : key ∈ table.keys
  · rwa [if_pos known]
  · rw [if_neg known]
    exact List.nodup_append.mpr ⟨distinct, List.nodup_singleton key, by
      intro first member second single
      rw [List.mem_singleton.mp single]
      exact fun equal => known (equal ▸ member)⟩

/-- A key is listed exactly if it has a value. -/
theorem mem_keys_iff (table : Table κ ν) (key : κ) :
    key ∈ table.keys ↔ ∃ value, table.get? key = some value := by
  constructor
  · intro member
    rcases List.mem_map.mp member with ⟨entry, listed, same⟩
    cases found : table.entries.find? fun entry => entry.1 = key with
    | none =>
        have missing := List.find?_eq_none.mp found entry listed
        exact absurd (decide_eq_true same) missing
    | some entry => exact ⟨entry.2, by simp [get?, found]⟩
  · rintro ⟨value, stored⟩
    rcases Option.map_eq_some_iff.mp stored with ⟨entry, found, _⟩
    have same : entry.1 = key := by simpa using List.find?_some found
    exact List.mem_map.mpr ⟨entry, List.mem_of_find?_eq_some found, same⟩

/-- With distinct keys every entry is the one that is found under its key. -/
theorem Distinct.get?_eq_some_iff {table : Table κ ν} (distinct : table.Distinct) (key : κ)
    (value : ν) : table.get? key = some value ↔ (key, value) ∈ table.entries := by
  unfold get?
  constructor
  · intro stored
    rcases Option.map_eq_some_iff.mp stored with ⟨entry, found, shown⟩
    have same : entry.1 = key := by simpa using List.find?_some found
    exact (Prod.ext same shown : entry = (key, value)) ▸ List.mem_of_find?_eq_some found
  · intro listed
    have found := find?_of_nodup Prod.fst distinct listed
    exact congrArg (Option.map Prod.snd) found

end Table
end StorageTelemetry
