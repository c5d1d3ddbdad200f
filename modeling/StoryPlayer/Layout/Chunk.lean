import StoryPlayer.Text.Basic
import StoryPlayer.Text.Blank
import StoryPlayer.Text.Word

/-!
# Chunks of a line

A line is filled with chunks, which are not broken unless they are longer than a whole line. A
chunk ends where a run of blanks begins or ends, after the hyphen inside a compound word, and on
either side of a dash of two or more hyphens between two words.

Whether a chunk ends between two characters depends on what stands before and after that place, so
the rules take both: `past` is what stands before, nearest character first.
-/

namespace StoryPlayer

/-- What may stand before a dash. -/
def endsWord (c : Char) : Bool :=
  isWordChar c || "!\"'&.,?".toList.contains c

/-- Two letters follow, with at most one hyphen between them. -/
def startsCompoundPart : Text → Bool
  | a :: '-' :: b :: _ => isLetter a && isLetter b
  | a :: b :: _ => isLetter a && isLetter b
  | _ => false

/-- The text before ends in two letters, or in two letters with a hyphen between them. -/
def endsCompoundPart : Text → Bool
  | a :: '-' :: b :: _ => isLetter a && isLetter b
  | a :: b :: _ => isLetter a && isLetter b
  | _ => false

/-- A dash starts here: two or more hyphens and then a word character. -/
def startsDash (rest : Text) : Bool :=
  2 ≤ (rest.takeWhile (· == '-')).length && (rest.dropWhile (· == '-')).head?.any isWordChar

/-- A dash ends here: two or more hyphens after something that ends a word. -/
def endsDash (past : Text) : Bool :=
  2 ≤ (past.takeWhile (· == '-')).length && (past.dropWhile (· == '-')).head?.any endsWord

/-- Whether a chunk ends between `past` and `rest`. -/
def breaksBetween (past rest : Text) : Bool :=
  match past, rest with
  | p :: before, r :: _ =>
    isAsciiBlank p != isAsciiBlank r
      || (p == '-' && endsCompoundPart before && startsCompoundPart rest)
      || (endsWord p && startsDash rest)
      || (isWordChar r && endsDash past)
  | _, _ => false

/-- The chunks of `rest`, which stands after `past`. -/
def chunksAfter (past : Text) : Text → List Text
  | [] => []
  | c :: rest =>
    match chunksAfter (c :: past) rest with
    | [] => [[c]]
    | chunk :: chunks =>
      if breaksBetween (c :: past) rest then [c] :: chunk :: chunks else (c :: chunk) :: chunks

/-- The chunks of a line. -/
def chunks (line : Text) : List Text := chunksAfter [] line

theorem chunksAfter_eq_nil_iff {past line : Text} : chunksAfter past line = [] ↔ line = [] := by
  cases line with
  | nil => simp [chunksAfter]
  | cons c rest =>
    rw [chunksAfter]
    split
    · simp
    · split <;> simp

theorem flatten_chunksAfter (past line : Text) : (chunksAfter past line).flatten = line := by
  induction line generalizing past with
  | nil => rfl
  | cons c rest ih =>
    have hrest := ih (c :: past)
    rw [chunksAfter]
    split
    · rename_i h
      rw [chunksAfter_eq_nil_iff] at h
      simp [h]
    · rename_i chunk more h
      rw [h] at hrest
      split <;> simpa using hrest

/-- Nothing of a line is lost in its chunks. -/
theorem flatten_chunks (line : Text) : (chunks line).flatten = line :=
  flatten_chunksAfter [] line

end StoryPlayer
