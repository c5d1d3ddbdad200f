/-!
# Maps in order of first insertion

A map is the list of its entries. Inserting under a new key appends, inserting under a known key
replaces the value in place.
-/

namespace StoryPlayer

structure OrderedMap (κ ν : Type) where
  entries : List (κ × ν)
deriving Repr, DecidableEq

namespace OrderedMap

variable {κ ν : Type} [DecidableEq κ]

def empty : OrderedMap κ ν := ⟨[]⟩

def find? (m : OrderedMap κ ν) (key : κ) : Option ν :=
  (m.entries.find? (·.1 = key)).map (·.2)

def contains (m : OrderedMap κ ν) (key : κ) : Bool := m.entries.any (·.1 = key)

def keys (m : OrderedMap κ ν) : List κ := m.entries.map (·.1)

def size (m : OrderedMap κ ν) : Nat := m.entries.length

def insertEntry (key : κ) (value : ν) : List (κ × ν) → List (κ × ν)
  | [] => [(key, value)]
  | entry :: entries =>
    if entry.1 = key then (key, value) :: entries else entry :: insertEntry key value entries

def insert (m : OrderedMap κ ν) (key : κ) (value : ν) : OrderedMap κ ν :=
  ⟨insertEntry key value m.entries⟩

/-- The map of the entries inserted one after the other. -/
def ofList (entries : List (κ × ν)) : OrderedMap κ ν :=
  entries.foldl (fun m entry => m.insert entry.1 entry.2) empty

theorem find?_insert_self (m : OrderedMap κ ν) (key : κ) (value : ν) :
    (m.insert key value).find? key = some value := by
  obtain ⟨entries⟩ := m
  simp only [insert, find?]
  induction entries with
  | nil => simp [insertEntry]
  | cons entry entries ih =>
    rw [insertEntry]
    split
    · simp
    · rename_i h
      simpa [List.find?_cons, h] using ih

theorem find?_insert_of_ne (m : OrderedMap κ ν) {key other : κ} (value : ν) (h : other ≠ key) :
    (m.insert key value).find? other = m.find? other := by
  obtain ⟨entries⟩ := m
  simp only [insert, find?]
  congr 1
  induction entries with
  | nil => simp [insertEntry, Ne.symm h]
  | cons entry entries ih =>
    rw [insertEntry]
    split
    · rename_i hkey
      simp [hkey, Ne.symm h]
    · simp [List.find?_cons, ih]

end OrderedMap
end StoryPlayer
