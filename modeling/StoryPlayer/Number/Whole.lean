/-!
# Whole part of a double

The whole part of a double is exact, however large the double is. A double that is not a number
and an infinite one have none.
-/

namespace StoryPlayer

/-- Why a double has no whole part. -/
inductive NotFinite where
  | undefined
  | infinite
deriving Repr, DecidableEq

/-- The whole part of the double with the given bits, which is not below zero. -/
def wholePartOfBits (bits : Nat) : Except NotFinite Nat :=
  let exponent := bits / Nat.pow 2 52 % Nat.pow 2 11
  let fraction := bits % Nat.pow 2 52
  if exponent = 2047 then
    throw (if fraction = 0 then .infinite else .undefined)
  else if exponent = 0 then pure 0
  else if 1075 ≤ exponent then pure ((Nat.pow 2 52 + fraction) * Nat.pow 2 (exponent - 1075))
  else pure ((Nat.pow 2 52 + fraction) / Nat.pow 2 (1075 - exponent))

/-- The whole part of a double that is not below zero. -/
def wholePart (x : Float) : Except NotFinite Nat := wholePartOfBits x.toBits.toNat

end StoryPlayer
