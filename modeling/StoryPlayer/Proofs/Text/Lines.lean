import Mathlib.Data.List.DropRight
import StoryPlayer.Text.Basic

/-!
# Pieces of a text

How cutting a text at a separator and putting its pieces together go with appending, and what is
left of a text when its end is trimmed.
-/

namespace StoryPlayer
namespace Text

private theorem split_eq_splitOn (sep : Char) (t : Text) : split sep t = t.splitOn sep := by
  induction t with
  | nil => rfl
  | cons c t ih =>
    rw [split, List.splitOn_cons_eq_if_modifyHead, ih]
    by_cases hc : c = sep
    · simp [hc]
    · have hne := List.splitOn_ne_nil sep t
      obtain ⟨piece, pieces, hpieces⟩ := List.exists_cons_of_ne_nil hne
      simp [hc, hpieces]

theorem split_append (sep : Char) (a b : Text) :
    split sep (a ++ sep :: b) = split sep a ++ split sep b := by
  simp only [split_eq_splitOn, List.splitOn_append_cons_self]

theorem split_of_notMem {sep : Char} {t : Text} (h : sep ∉ t) : split sep t = [t] := by
  rw [split_eq_splitOn, List.splitOn_eq_singleton h]

theorem join_cons (sep : Char) (piece : Text) {pieces : List Text} (h : pieces ≠ []) :
    join sep (piece :: pieces) = piece ++ sep :: join sep pieces := by
  obtain ⟨next, rest, rfl⟩ := List.exists_cons_of_ne_nil h
  rfl

theorem join_append (sep : Char) {a b : List Text} (ha : a ≠ []) (hb : b ≠ []) :
    join sep (a ++ b) = join sep a ++ sep :: join sep b := by
  induction a with
  | nil => exact absurd rfl ha
  | cons piece a ih =>
    by_cases hnil : a = []
    · subst a
      exact join_cons sep piece hb
    · rw [List.cons_append, join_cons sep piece (by simp [hnil]), join_cons sep piece hnil, ih hnil]
      simp

theorem join_prefix_append (sep : Char) (a b : List Text) : join sep a <+: join sep (a ++ b) := by
  by_cases ha : a = []
  · subst a
    exact List.nil_prefix
  by_cases hb : b = []
  · subst b
    simp
  · rw [join_append sep ha hb]
    exact List.prefix_append _ _

theorem join_concat_prefix (sep : Char) (pieces : List Text) {a b : Text} (h : a <+: b) :
    join sep (pieces ++ [a]) <+: join sep (pieces ++ [b]) := by
  by_cases hnil : pieces = []
  · subst pieces
    exact h
  · obtain ⟨rest, rfl⟩ := h
    refine ⟨rest, ?_⟩
    rw [join_append sep hnil (List.cons_ne_nil _ _), join_append sep hnil (List.cons_ne_nil _ _)]
    simp [join]

/-- What comes after a line that other lines follow. -/
def following : List Text → Text
  | [] => []
  | line :: lines => '\n' :: join '\n' (line :: lines)

theorem join_cons_eq_append_following (line : Text) (lines : List Text) :
    join '\n' (line :: lines) = line ++ following lines := by
  cases lines with
  | nil => simp [join, following]
  | cons next lines => rfl

theorem join_append_eq_append_following {a : List Text} (ha : a ≠ []) (b : List Text) :
    join '\n' (a ++ b) = join '\n' a ++ following b := by
  cases b with
  | nil => simp [following]
  | cons line b => exact join_append '\n' ha (List.cons_ne_nil line b)

theorem following_eq_flatMap (lines : List Text) : following lines = lines.flatMap ('\n' :: ·) := by
  induction lines with
  | nil => rfl
  | cons line lines ih =>
    rw [following, join_cons_eq_append_following, ih, List.flatMap_cons]
    rfl

theorem following_append (a b : List Text) : following (a ++ b) = following a ++ following b := by
  rw [following_eq_flatMap, following_eq_flatMap, following_eq_flatMap, List.flatMap_append]

theorem notMem_of_mem_split {sep : Char} {t piece : Text} (h : piece ∈ split sep t) :
    sep ∉ piece := by
  induction t generalizing piece with
  | nil =>
    obtain rfl : piece = [] := by simpa [split] using h
    simp
  | cons c t ih =>
    rw [split] at h
    split at h
    · rcases List.mem_cons.mp h with rfl | h
      · simp
      · exact ih h
    · rename_i hc
      obtain ⟨first, others, hsplit⟩ := List.exists_cons_of_ne_nil (split_ne_nil sep t)
      rw [hsplit] at h ih
      rcases List.mem_cons.mp h with rfl | h
      · have hfirst := ih List.mem_cons_self
        simp [Ne.symm hc, hfirst]
      · exact ih (List.mem_cons_of_mem _ h)

theorem split_join {sep : Char} {pieces : List Text} (hne : pieces ≠ []) :
    split sep (join sep pieces) = pieces.flatMap (split sep) := by
  induction pieces with
  | nil => exact absurd rfl hne
  | cons piece pieces ih =>
    by_cases hnil : pieces = []
    · subst pieces
      simp [join]
    · rw [join_cons sep piece hnil, split_append, ih hnil, List.flatMap_cons]

theorem join_flatMap_split (sep : Char) (pieces : List Text) :
    join sep (pieces.flatMap (split sep)) = join sep pieces := by
  by_cases hnil : pieces = []
  · subst pieces
    rfl
  · rw [← split_join hnil, join_split]

theorem head?_split (sep : Char) (t : Text) :
    (split sep t).head? = some (t.takeWhile (· != sep)) := by
  induction t with
  | nil => rfl
  | cons c t ih =>
    rw [split]
    by_cases hc : c = sep
    · simp [hc]
    · obtain ⟨first, others, hsplit⟩ := List.exists_cons_of_ne_nil (split_ne_nil sep t)
      rw [hsplit] at ih
      obtain rfl : first = t.takeWhile (· != sep) := by simpa using ih
      simp [hc, hsplit]

/-- The length of lines, each with the character that ends it. -/
def extent : List Text → Nat
  | [] => 0
  | line :: lines => line.length + 1 + extent lines

@[simp] theorem extent_nil : extent [] = 0 := rfl

@[simp] theorem extent_cons (line : Text) (lines : List Text) :
    extent (line :: lines) = line.length + 1 + extent lines := rfl

@[simp] theorem extent_append (a b : List Text) : extent (a ++ b) = extent a + extent b := by
  induction a with
  | nil => simp
  | cons line a ih =>
    rw [List.cons_append, extent_cons, extent_cons, ih]
    omega

theorem length_join_add_one (sep : Char) {lines : List Text} (h : lines ≠ []) :
    (join sep lines).length + 1 = extent lines := by
  induction lines with
  | nil => exact absurd rfl h
  | cons line lines ih =>
    by_cases hnil : lines = []
    · subst lines
      simp [join]
    · rw [join_cons sep line hnil, extent_cons, ← ih hnil]
      simp only [List.length_append, List.length_cons]
      omega

theorem exists_trimEnd_append (q : Char → Bool) (t : Text) :
    ∃ gap, (∀ c ∈ gap, q c) ∧ trimEnd q t ++ gap = t :=
  ⟨t.rtakeWhile q, fun _ => List.mem_rtakeWhile_imp, List.rdropWhile_append_rtakeWhile⟩

theorem trimEnd_eq_nil_iff {q : Char → Bool} {t : Text} : trimEnd q t = [] ↔ ∀ c ∈ t, q c :=
  List.rdropWhile_eq_nil_iff

theorem trimEnd_eq_self_iff {q : Char → Bool} {t : Text} :
    trimEnd q t = t ↔ ∀ c ∈ t.getLast?, q c = false := by
  refine List.rdropWhile_eq_self_iff.trans ?_
  constructor
  · intro h c hc
    obtain ⟨hne, rfl⟩ := List.mem_getLast?_eq_getLast hc
    simpa using h hne
  · intro h hne
    simpa using h _ (List.getLast?_eq_some_getLast hne)

theorem getLast?_trimEnd (q : Char → Bool) (t : Text) :
    ∀ c ∈ (trimEnd q t).getLast?, q c = false :=
  trimEnd_eq_self_iff.mp (List.rdropWhile_idempotent q t)

theorem trimEnd_append_of_all {q : Char → Bool} {gap : Text} (hgap : ∀ c ∈ gap, q c) (t : Text) :
    trimEnd q (t ++ gap) = trimEnd q t := by
  have hall : ∀ c ∈ gap.reverse, q c := fun c hc => hgap c (List.mem_reverse.mp hc)
  rw [trimEnd, trimEnd, List.reverse_append, List.dropWhile_append_of_pos hall]

theorem trimEnd_append_of_ne_nil {q : Char → Bool} {t : Text} (ht : trimEnd q t ≠ []) (a : Text) :
    trimEnd q (a ++ t) = a ++ trimEnd q t := by
  have hne : (t.reverse.dropWhile q).isEmpty = false := by simpa [trimEnd] using ht
  rw [trimEnd, trimEnd, List.reverse_append, List.dropWhile_append, hne]
  simp

end Text
end StoryPlayer
