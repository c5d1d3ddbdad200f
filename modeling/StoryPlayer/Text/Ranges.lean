/-!
# Ranges of code points

A character class is kept as its ranges of code points in ascending order, so a look-up can stop
at the first range beyond the character.
-/

namespace StoryPlayer

/-- Whether `n` lies in one of the ascending ranges. -/
def inRanges (n : Nat) : List (Nat × Nat) → Bool
  | [] => false
  | (low, high) :: ranges => if n < low then false else n ≤ high || inRanges n ranges

end StoryPlayer
