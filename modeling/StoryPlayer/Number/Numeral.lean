import StoryPlayer.Text.Basic
import StoryPlayer.Text.Blank
import StoryPlayer.Text.Digit

/-!
# Numerals

A whole number is written with decimal digits of any script, after at most one sign. Single
underscores may stand between digits, and blanks around the whole.
-/

namespace StoryPlayer

/-- The longest numeral that is read, in digits, leading zeros included. -/
def maxNumeralDigits : Nat := 4300

/-- The blanks that may surround a numeral: all but the four separators of ASCII. -/
def isNumeralBlank (c : Char) : Bool := isBlank c && !(0x1C ≤ c.toNat && c.toNat ≤ 0x1F)

/-- The digits of a numeral without its sign, most significant first. -/
def numeralDigits? : Text → Option (List Nat)
  | [] => none
  | [c] => (digitValue? c).map ([·])
  | c :: '_' :: rest => do return (← digitValue? c) :: (← numeralDigits? rest)
  | c :: rest => do return (← digitValue? c) :: (← numeralDigits? rest)

/-- The value of decimal digits, most significant first. -/
def ofDigits (digits : List Nat) : Nat := digits.foldl (fun value d => 10 * value + d) 0

/-- The whole number that a text stands for. -/
def readInteger? (t : Text) : Option Int := do
  let (negative, body) := match t.trim isNumeralBlank with
    | '-' :: body => (true, body)
    | '+' :: body => (false, body)
    | body => (false, body)
  let digits ← numeralDigits? body
  if digits.length ≤ maxNumeralDigits then
    return if negative then -(ofDigits digits : Int) else ofDigits digits
  else none

end StoryPlayer
