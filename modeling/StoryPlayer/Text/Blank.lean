import StoryPlayer.Text.Basic
import StoryPlayer.Text.Ranges

/-!
# Blanks

Two classes of white space. Text typed by people is trimmed of every Unicode blank, while lines
are filled by the six ASCII blanks only.
-/

namespace StoryPlayer

/-- White space of any kind, line ends and the separators of ASCII included. -/
def blankRanges : List (Nat × Nat) :=
  [(0x09, 0x0D), (0x1C, 0x20), (0x85, 0x85), (0xA0, 0xA0), (0x1680, 0x1680), (0x2000, 0x200A),
   (0x2028, 0x2029), (0x202F, 0x202F), (0x205F, 0x205F), (0x3000, 0x3000)]

def isBlank (c : Char) : Bool := inRanges c.toNat blankRanges

/-- Tab, line feed, vertical tab, form feed, carriage return and space. -/
def isAsciiBlank (c : Char) : Bool := c == ' ' || (0x09 ≤ c.toNat && c.toNat ≤ 0x0D)

def isLineEnd (c : Char) : Bool := c == '\n' || c == '\r'

/-- Blanks that stay on a line. -/
def isInlineBlank (c : Char) : Bool := isBlank c && c != '\n' && c != '\r'

/-- The text with line ends of all kinds as line feeds. -/
def Text.lineFeeds : Text → Text
  | [] => []
  | '\r' :: '\n' :: rest => '\n' :: lineFeeds rest
  | '\r' :: rest => '\n' :: lineFeeds rest
  | c :: rest => c :: lineFeeds rest

theorem isBlank_of_isAsciiBlank {c : Char} (h : isAsciiBlank c = true) : isBlank c = true := by
  simp only [isAsciiBlank, Bool.or_eq_true, beq_iff_eq, Bool.and_eq_true, decide_eq_true_eq] at h
  rcases h with rfl | h
  · decide
  · have hlow : ¬ c.toNat < 0x09 := by omega
    simp [isBlank, blankRanges, inRanges, hlow, h.2]

end StoryPlayer
