/-!
# Text

Story markup, labels, answers and settings are texts. A text is the list of its code points, so
that every length, offset and cut counts code points.
-/

namespace StoryPlayer

abbrev Text := List Char

namespace Text

/-- Drops the longest end made of characters of the class. -/
def trimEnd (drop : Char → Bool) (t : Text) : Text :=
  (t.reverse.dropWhile drop).reverse

/-- Drops the longest start and the longest end made of characters of the class. -/
def trim (drop : Char → Bool) (t : Text) : Text :=
  trimEnd drop (t.dropWhile drop)

/-- The pieces between the separators; a text without any is one piece. -/
def split (sep : Char) : Text → List Text
  | [] => [[]]
  | c :: t =>
    if c = sep then [] :: split sep t
    else match split sep t with
      | [] => [[c]]
      | piece :: pieces => (c :: piece) :: pieces

/-- The pieces with the separator between each two. -/
def join (sep : Char) : List Text → Text
  | [] => []
  | [piece] => piece
  | piece :: pieces => piece ++ sep :: join sep pieces

/-- The first `n` characters, or all but the last `-n` when `n` is negative. -/
def takeSigned (n : Int) (t : Text) : Text :=
  if 0 ≤ n then t.take n.toNat else t.take (t.length - (-n).toNat)

theorem split_ne_nil (sep : Char) (t : Text) : split sep t ≠ [] := by
  cases t with
  | nil => simp [split]
  | cons c t =>
    rw [split]
    split
    · simp
    · split <;> simp

theorem join_split (sep : Char) (t : Text) : join sep (split sep t) = t := by
  induction t with
  | nil => rfl
  | cons c t ih =>
    rw [split]
    split
    · rename_i h
      match hs : split sep t with
      | [] => exact absurd hs (split_ne_nil sep t)
      | piece :: pieces => rw [hs] at ih; simp [join, ih, h]
    · match hs : split sep t with
      | [] => exact absurd hs (split_ne_nil sep t)
      | [piece] => rw [hs] at ih; simpa [join] using ih
      | piece :: next :: pieces => rw [hs] at ih; simpa [join] using ih

theorem length_trimEnd_le (drop : Char → Bool) (t : Text) : (trimEnd drop t).length ≤ t.length := by
  have := (List.dropWhile_suffix drop (l := t.reverse)).length_le
  simpa [trimEnd] using this

end Text
end StoryPlayer
