import Mathlib.Data.Finset.Card
import Mathlib.Data.List.Forall2
import StoryPlayer.Playback.Answers
import StoryPlayer.Proofs.OrderedMap

/-!
# What answers recall

Answers that are written one after the other keep the places of the first writes and the values of
the last ones. A write under a known key moves no key, and a write under a new key comes after all
the others. So one write keeps the order of first writes, and with it a whole list of writes does.
-/

namespace StoryPlayer
namespace OrderedMap

variable {κ ν : Type} [DecidableEq κ]

def insertAll (m : OrderedMap κ ν) (writes : List (κ × ν)) : OrderedMap κ ν :=
  writes.foldl (fun m entry => m.insert entry.1 entry.2) m

def firstPlace (writes : List (κ × ν)) (key : κ) : Nat := (writes.map (·.1)).idxOf key

/-- There is a write under the key, and the last one gave it this value. -/
def LastWrite (writes : List (κ × ν)) (key : κ) (value : ν) : Prop :=
  ∃ before after, writes = before ++ (key, value) :: after ∧ key ∉ after.map (·.1)

def distinctKeys (writes : List (κ × ν)) : Nat := (writes.map (·.1)).toFinset.card

/-- A map that knows what was written: the keys in the order of their first writes, and under each
of them the value of the last one. -/
structure Recalls (m : OrderedMap κ ν) (writes : List (κ × ν)) : Prop where
  written : ∀ key, key ∈ m.keys ↔ key ∈ writes.map (·.1)
  inOrder : m.keys.Pairwise fun a b => firstPlace writes a < firstPlace writes b
  last : ∀ key value, m.find? key = some value ↔ LastWrite writes key value

variable {m : OrderedMap κ ν} {writes : List (κ × ν)} {key : κ} {value : ν}

private theorem firstPlace_append_of_mem (h : key ∈ writes.map (·.1)) (more : List (κ × ν)) :
    firstPlace (writes ++ more) key = firstPlace writes key := by
  rw [firstPlace, List.map_append, List.idxOf_append_of_mem h, firstPlace]

private theorem firstPlace_lt_of_mem (h : key ∈ writes.map (·.1)) :
    firstPlace writes key < writes.length := by
  rw [← List.length_map (·.1)]
  exact List.idxOf_lt_length_of_mem h

private theorem firstPlace_append_of_notMem (h : key ∉ writes.map (·.1)) (value : ν) :
    firstPlace (writes ++ [(key, value)]) key = writes.length := by
  rw [firstPlace, List.map_append, List.idxOf_append_of_notMem h, List.length_map]
  simp

/-- One more write under the key makes the earlier ones of no account, and under another key it is
of no account itself. -/
private theorem lastWrite_concat_iff {other : κ} {latest : ν} :
    LastWrite (writes ++ [(other, latest)]) key value ↔
      if key = other then latest = value else LastWrite writes key value := by
  constructor
  · rintro ⟨before, after, hsplit, hafter⟩
    -- Either nothing follows the last write under the key, or the new write ends what follows.
    obtain rfl | ⟨rest, final, rfl⟩ := after.eq_nil_or_concat
    · obtain ⟨-, hentry⟩ := List.append_inj' hsplit rfl
      obtain ⟨rfl, rfl⟩ : other = key ∧ latest = value := by simpa using hentry
      rw [if_pos rfl]
    · rw [List.concat_eq_append] at hsplit hafter
      rw [← List.cons_append, ← List.append_assoc] at hsplit
      obtain ⟨rfl, hentry⟩ := List.append_inj' hsplit rfl
      obtain rfl : (other, latest) = final := by simpa using hentry
      simp only [List.map_append, List.mem_append, not_or] at hafter
      rw [if_neg (by simpa using hafter.2)]
      exact ⟨before, rest, rfl, hafter.1⟩
  · split
    · rename_i hkey
      rintro rfl
      exact ⟨writes, [], by rw [hkey], by simp⟩
    · rename_i hkey
      rintro ⟨before, after, rfl, hafter⟩
      exact ⟨before, after ++ [(other, latest)], by simp, by simpa [hkey] using hafter⟩

namespace Recalls

theorem empty : Recalls (OrderedMap.empty : OrderedMap κ ν) [] where
  written _ := Iff.rfl
  inOrder := List.Pairwise.nil
  last key value := by simp [OrderedMap.empty, find?, LastWrite]

private theorem inOrder_insert (h : m.Recalls writes) (key : κ) (value : ν) :
    (m.insert key value).keys.Pairwise fun a b =>
      firstPlace (writes ++ [(key, value)]) a < firstPlace (writes ++ [(key, value)]) b := by
  -- Every key of the map was written before, so the new write is not its first.
  have hplace : ∀ a ∈ m.keys, firstPlace (writes ++ [(key, value)]) a = firstPlace writes a :=
    fun a ha => firstPlace_append_of_mem ((h.written a).mp ha) _
  have hknown : m.keys.Pairwise fun a b =>
      firstPlace (writes ++ [(key, value)]) a < firstPlace (writes ++ [(key, value)]) b := by
    refine h.inOrder.imp_of_mem fun {a b} ha hb hab => ?_
    rw [hplace a ha, hplace b hb]
    exact hab
  by_cases hkey : key ∈ m.keys
  · rw [keys_insert_of_mem hkey]
    exact hknown
  · rw [keys_insert_of_notMem hkey]
    refine List.pairwise_append.mpr ⟨hknown, List.pairwise_singleton _ _, fun a ha b hb => ?_⟩
    obtain rfl : b = key := List.mem_singleton.mp hb
    rw [hplace a ha, firstPlace_append_of_notMem (mt (h.written b).mpr hkey)]
    exact firstPlace_lt_of_mem ((h.written a).mp ha)

theorem insert (h : m.Recalls writes) (key : κ) (value : ν) :
    (m.insert key value).Recalls (writes ++ [(key, value)]) where
  written other := by
    rw [List.map_append, List.mem_append, ← h.written other]
    by_cases hkey : key ∈ m.keys
    · rw [keys_insert_of_mem hkey]
      simp only [List.map_cons, List.map_nil, List.mem_singleton, iff_self_or]
      rintro rfl
      exact hkey
    · rw [keys_insert_of_notMem hkey, List.mem_append]
      rfl
  inOrder := h.inOrder_insert key value
  last other found := by
    rw [find?_insert, lastWrite_concat_iff, ← h.last]
    split
    · exact Option.some_inj
    · rfl

/-- What holds of one write holds of a list of them. -/
theorem insertAll (h : m.Recalls writes) (more : List (κ × ν)) :
    (m.insertAll more).Recalls (writes ++ more) := by
  induction more generalizing m writes with
  | nil =>
    rw [List.append_nil]
    exact h
  | cons entry more ih =>
    have hstep := ih (h.insert entry.1 entry.2)
    rw [List.append_assoc] at hstep
    exact hstep

theorem ofList (entries : List (κ × ν)) : (OrderedMap.ofList entries).Recalls entries :=
  empty.insertAll entries

theorem nodup_keys (h : m.Recalls writes) : m.keys.Nodup := by
  refine h.inOrder.imp fun {a b} hab => ?_
  rintro rfl
  exact Nat.lt_irrefl _ hab

theorem size_eq (h : m.Recalls writes) : m.size = distinctKeys writes := by
  have hkeys : m.keys.toFinset = (writes.map (·.1)).toFinset := by
    ext key
    rw [List.mem_toFinset, List.mem_toFinset, h.written]
  rw [distinctKeys, ← hkeys, List.toFinset_card_of_nodup h.nodup_keys, keys, List.length_map, size]

private theorem forall₂_entries (h : m.Recalls writes) :
    List.Forall₂ (fun entry key => entry.1 = key ∧ LastWrite writes key entry.2)
      m.entries m.keys := by
  rw [keys, List.forall₂_map_right_iff]
  refine List.forall₂_same.mpr fun entry hentry => ⟨rfl, ?_⟩
  exact (h.last _ _).mp (find?_of_mem_entries h.nodup_keys hentry)

end Recalls

private theorem distinctKeys_le_append (writes more : List (κ × ν)) :
    distinctKeys writes ≤ distinctKeys (writes ++ more) := by
  refine Finset.card_le_card fun key hkey => ?_
  rw [List.mem_toFinset] at hkey ⊢
  rw [List.map_append]
  exact List.mem_append_left _ hkey

end OrderedMap

open OrderedMap

/-- Answers start from given ones and are written in any order, a label any number of times. No
label stands twice. The labels are those that occur, in the order of their first occurrences. Each
is found with the value of its last occurrence, and no other label is found. There are as many
answers as different labels, and further writes never make them fewer. The entries are the labels
in their order, each with its value. -/
theorem answers_recall_writes (given writes : List (Text × Text)) {answers : Answers}
    (h : answers = (ofList given).insertAll writes) :
    answers.keys.Nodup ∧
    (∀ label, label ∈ answers.keys ↔ label ∈ (given ++ writes).map (·.1)) ∧
    (answers.keys.Pairwise fun a b =>
      firstPlace (given ++ writes) a < firstPlace (given ++ writes) b) ∧
    (∀ label value, answers.find? label = some value ↔ LastWrite (given ++ writes) label value) ∧
    (∀ label, answers.find? label = none ↔ label ∉ (given ++ writes).map (·.1)) ∧
    (∀ label, answers.contains label ↔ label ∈ (given ++ writes).map (·.1)) ∧
    answers.size = distinctKeys (given ++ writes) ∧
    (∀ more, answers.size ≤ (answers.insertAll more).size) ∧
    List.Forall₂ (fun entry label => entry.1 = label ∧ LastWrite (given ++ writes) label entry.2)
      answers.entries answers.keys := by
  have hrecalls : answers.Recalls (given ++ writes) := by
    rw [h]
    exact (Recalls.ofList given).insertAll writes
  refine ⟨hrecalls.nodup_keys, hrecalls.written, hrecalls.inOrder, hrecalls.last, ?_, ?_,
    hrecalls.size_eq, ?_, hrecalls.forall₂_entries⟩
  · intro label
    rw [find?_eq_none_iff, hrecalls.written]
  · intro label
    rw [contains_iff, hrecalls.written]
  · intro more
    rw [hrecalls.size_eq, (hrecalls.insertAll more).size_eq]
    exact distinctKeys_le_append _ more

/-- One label is given twice. -/
def givenAnswers : List (Text × Text) :=
  [("name".toList, "Bob".toList), ("town".toList, "Oslo".toList), ("name".toList, "Al".toList)]

/-- A new label twice, and between its writes the known ones in reverse. -/
def laterAnswers : List (Text × Text) :=
  [("pet".toList, "cat".toList), ("town".toList, "Rome".toList), ("name".toList, "Eve".toList),
    ("pet".toList, [])]

theorem answers_recall_writes_of_laterAnswers :
    ∃ answers : Answers, answers = (ofList givenAnswers).insertAll laterAnswers ∧
      answers.keys = ["name".toList, "town".toList, "pet".toList] ∧
      (answers.keys.Pairwise fun a b =>
        firstPlace (givenAnswers ++ laterAnswers) a < firstPlace (givenAnswers ++ laterAnswers) b) ∧
      answers.find? "name".toList = some "Eve".toList ∧ answers.find? "age".toList = none ∧
      answers.contains "pet".toList ∧ answers.size = 3 ∧
      ∀ more, 3 ≤ (answers.insertAll more).size := by
  obtain ⟨-, -, horder, hlast, hnone, hcontains, hsize, hmore, -⟩ :=
    answers_recall_writes givenAnswers laterAnswers rfl
  have hthree : distinctKeys (givenAnswers ++ laterAnswers) = 3 := by decide
  rw [hthree] at hsize
  refine ⟨_, rfl, by decide, horder, ?_, (hnone _).mpr (by decide), (hcontains _).mpr (by decide),
    hsize, fun more => hsize ▸ hmore more⟩
  exact (hlast _ _).mpr ⟨givenAnswers ++ laterAnswers.take 2, laterAnswers.drop 3, rfl, by decide⟩

end StoryPlayer
