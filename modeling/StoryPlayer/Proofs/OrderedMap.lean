import StoryPlayer.OrderedMap

/-!
# Laws of maps in order of first insertion

A new key goes to the end and a known key keeps its place, so the keys stay distinct and the entries
of a map are what the map knows.
-/

namespace StoryPlayer
namespace OrderedMap

variable {κ ν μ : Type} [DecidableEq κ]

theorem contains_iff {m : OrderedMap κ ν} {key : κ} : m.contains key ↔ key ∈ m.keys := by
  simp [contains, keys]

theorem contains_eq_false_iff {m : OrderedMap κ ν} {key : κ} :
    m.contains key = false ↔ key ∉ m.keys := by
  rw [← contains_iff, Bool.not_eq_true]

theorem find?_eq_none_iff {m : OrderedMap κ ν} {key : κ} :
    m.find? key = none ↔ key ∉ m.keys := by
  rw [← contains_eq_false_iff]
  simp [find?, contains]

theorem find?_cons (first key : κ) (value : ν) (entries : List (κ × ν)) :
    find? ⟨(first, value) :: entries⟩ key =
      if first = key then some value else find? ⟨entries⟩ key := by
  by_cases h : first = key
  · simp [find?, h]
  · simp [find?, h]

theorem find?_insert (m : OrderedMap κ ν) (key other : κ) (value : ν) :
    (m.insert other value).find? key = if key = other then some value else m.find? key := by
  split
  · rename_i hkey
    rw [hkey, find?_insert_self]
  · rename_i hkey
    exact find?_insert_of_ne m value hkey

private theorem insertEntry_of_notMem {key : κ} {entries : List (κ × ν)}
    (h : key ∉ entries.map (·.1))
    (value : ν) : insertEntry key value entries = entries ++ [(key, value)] := by
  induction entries with
  | nil => rfl
  | cons entry entries ih =>
    rw [List.map_cons, List.mem_cons, not_or] at h
    rw [insertEntry, if_neg (Ne.symm h.1), ih h.2, List.cons_append]

theorem entries_insert_of_new {m : OrderedMap κ ν} {key : κ} (h : m.contains key = false)
    (value : ν) : (m.insert key value).entries = m.entries ++ [(key, value)] :=
  insertEntry_of_notMem (contains_eq_false_iff.mp h) value

private theorem map_fst_insertEntry_of_mem {key : κ} {entries : List (κ × ν)}
    (h : key ∈ entries.map (·.1)) (value : ν) :
    (insertEntry key value entries).map (·.1) = entries.map (·.1) := by
  induction entries with
  | nil => cases h
  | cons entry entries ih =>
    rw [insertEntry]
    by_cases hkey : entry.1 = key
    · simp [hkey]
    · have hmem : key ∈ entries.map (·.1) := by simpa [Ne.symm hkey] using h
      rw [if_neg hkey, List.map_cons, List.map_cons, ih hmem]

theorem keys_insert_of_mem {m : OrderedMap κ ν} {key : κ} (h : key ∈ m.keys) (value : ν) :
    (m.insert key value).keys = m.keys :=
  map_fst_insertEntry_of_mem h value

theorem keys_insert_of_notMem {m : OrderedMap κ ν} {key : κ} (h : key ∉ m.keys) (value : ν) :
    (m.insert key value).keys = m.keys ++ [key] := by
  rw [keys, insert, insertEntry_of_notMem h, List.map_append]
  rfl

/-- However a map is filled, its keys are distinct. -/
theorem nodup_keys_insert {m : OrderedMap κ ν} (h : m.keys.Nodup) (key : κ) (value : ν) :
    (m.insert key value).keys.Nodup := by
  by_cases hkey : key ∈ m.keys
  · rw [keys_insert_of_mem hkey]
    exact h
  · rw [keys_insert_of_notMem hkey]
    exact List.nodup_append.mpr ⟨h, by simp, by
      intro a ha b hb hab
      obtain rfl : b = key := by simpa using hb
      exact hkey (hab ▸ ha)⟩

/-- Where the keys are distinct, every entry can be looked up. -/
theorem find?_of_mem_entries {m : OrderedMap κ ν} (h : m.keys.Nodup) {entry : κ × ν}
    (hentry : entry ∈ m.entries) : m.find? entry.1 = some entry.2 := by
  obtain ⟨entries⟩ := m
  dsimp only [keys] at h hentry
  induction entries with
  | nil => cases hentry
  | cons first entries ih =>
    obtain ⟨hfirst, hrest⟩ := List.nodup_cons.mp h
    rw [find?_cons]
    rcases List.mem_cons.mp hentry with rfl | hentry
    · exact if_pos rfl
    · have hne : first.1 ≠ entry.1 := by
        intro heq
        exact hfirst (List.mem_map.mpr ⟨entry, hentry, heq.symm⟩)
      rw [if_neg hne]
      exact ih hrest hentry

/-- Inserting goes with any change of the values. -/
theorem map_insertEntry (change : ν → μ) (key : κ) (value : ν) (entries : List (κ × ν)) :
    (insertEntry key value entries).map (fun entry => (entry.1, change entry.2)) =
      insertEntry key (change value) (entries.map fun entry => (entry.1, change entry.2)) := by
  induction entries with
  | nil => rfl
  | cons entry entries ih =>
    rw [insertEntry, List.map_cons, insertEntry]
    split
    · rfl
    · rw [List.map_cons, ih]

end OrderedMap
end StoryPlayer
