import StoryPlayer.Layout.Chunk
import StoryPlayer.Layout.Fill
import StoryPlayer.Layout.Spacing

/-!
# Wrapped lines

Lines are wrapped one by one; an empty line stays as an empty line.
-/

namespace StoryPlayer

/-- The lines that one line is wrapped into; none if there is nothing but blanks on it. -/
def fillLine (width : Width) (line : Text) : List Text :=
  fillLines width true (chunks (evenSpacing line))

def wrapLine (width : Width) (line : Text) : List Text :=
  match fillLine width line with
  | [] => [[]]
  | lines => lines

def wrapLines (width : Width) (lines : List Text) : List Text :=
  lines.flatMap (wrapLine width)

/-- The refusal of a width below one. -/
structure BadWidth where
  width : Int
deriving Repr, DecidableEq

def BadWidth.message (e : BadWidth) : String :=
  "invalid width " ++ toString e.width ++ " (must be > 0)"

/-- Wraps lines to a width that may be no width at all, which shows once there is a line. -/
def wrapLines? (width : Int) (lines : List Text) : Except BadWidth (List Text) :=
  if h : 0 < width then pure (wrapLines ⟨width.toNat, by omega⟩ lines)
  else if lines.isEmpty then pure []
  else throw ⟨width⟩

theorem wrapLine_ne_nil (width : Width) (line : Text) : wrapLine width line ≠ [] := by
  rw [wrapLine]
  split
  · simp
  · assumption

end StoryPlayer
