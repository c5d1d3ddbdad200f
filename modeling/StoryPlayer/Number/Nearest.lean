/-!
# Nearest double

A quotient of natural numbers is turned into a double by one rounding of its exact value, a tie
going to the even neighbour. The significand `m` and the scale `q` of the result stand for the
value `m · 2^q`.
-/

namespace StoryPlayer

/-- `num / den` rounded to a natural number, a half going to the even neighbour. -/
def roundQuotient (num den : Nat) : Nat :=
  let whole := num / den
  let rest := num % den
  if 2 * rest < den then whole
  else if den < 2 * rest then whole + 1
  else whole + whole % 2

/-- The power of two at or below a positive quotient. -/
def quotientExponent (num den : Nat) : Int :=
  let guess : Int := (num.log2 : Int) - den.log2
  if den * Nat.pow 2 guess.toNat ≤ num * Nat.pow 2 (-guess).toNat then guess else guess - 1

/-- The bits of the double nearest to `num / den`: the significand has 53 bits, or as many as fit
above the smallest scale, and the scale counts in the exponent field. The result reaches
`2047 · 2^52` when the quotient is beyond all doubles. -/
def nearestBits (num den : Nat) : Nat :=
  if num = 0 then 0
  else
    let scale := max (quotientExponent num den - 52) (-1074)
    let m := roundQuotient (num * Nat.pow 2 (-scale).toNat) (den * Nat.pow 2 scale.toNat)
    (scale + 1074).toNat * Nat.pow 2 52 + m

/-- The double nearest to `num / den`, or nothing if that is beyond all doubles. -/
def nearestDouble? (num den : Nat) : Option Float :=
  let bits := nearestBits num den
  if bits < 2047 * Nat.pow 2 52 then some (Float.ofBits bits.toUInt64) else none

/-- The rounded quotient is at most half a unit away. -/
theorem roundQuotient_close {num den : Nat} (hden : 0 < den) :
    2 * num ≤ (2 * roundQuotient num den + 1) * den ∧
      2 * roundQuotient num den * den ≤ 2 * num + den := by
  have hsplit := Nat.div_add_mod num den
  have hrest := Nat.mod_lt num hden
  generalize hq : num / den = q at hsplit
  generalize hr : num % den = r at hsplit hrest
  have hqd : den * q = q * den := Nat.mul_comm _ _
  simp only [roundQuotient, hq, hr]
  split
  · constructor <;> simp only [Nat.add_mul, Nat.mul_assoc, Nat.one_mul] <;> omega
  · split
    · constructor <;> simp only [Nat.add_mul, Nat.mul_add, Nat.mul_assoc, Nat.one_mul] <;> omega
    · have hpar : q % 2 = 0 ∨ q % 2 = 1 := by omega
      rcases hpar with h | h <;> rw [h] <;>
        constructor <;> simp only [Nat.add_mul, Nat.mul_add, Nat.mul_assoc, Nat.one_mul] <;> omega

end StoryPlayer
