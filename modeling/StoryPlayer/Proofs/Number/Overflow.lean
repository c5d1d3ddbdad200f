import Mathlib.Algebra.Order.Field.Power
import Mathlib.Tactic.Linarith
import Mathlib.Tactic.Ring
import StoryPlayer.Number.Nearest

/-!
# Quotients beyond all doubles

The largest double is `2^1024 - 2^971`, and the next step of its scale would be `2^1024`. A quotient
has no nearest double exactly when it reaches the middle between the two, since the tie goes to the
even neighbour, which is not there.
-/

namespace StoryPlayer

/-- The least number that rounds beyond all doubles, `2^1024 - 2^970`. -/
def overflowPoint : Nat := (2 ^ 54 - 1) * 2 ^ 970

private theorem mul_two_zpow_le_iff (a b : Nat) (s : Int) :
    a * Nat.pow 2 s.toNat ≤ b * Nat.pow 2 (-s).toNat ↔ (a : ℚ) * 2 ^ s ≤ b := by
  simp only [Nat.pow_eq]
  rcases Int.le_total 0 s with hs | hs
  · obtain ⟨n, rfl⟩ := Int.eq_ofNat_of_zero_le hs
    have hneg : (-(n : Int)).toNat = 0 := by omega
    rw [hneg, Int.toNat_natCast, pow_zero, mul_one, zpow_natCast]
    exact_mod_cast Iff.rfl
  · obtain ⟨n, hn⟩ := Int.eq_ofNat_of_zero_le (Int.neg_nonneg.mpr hs)
    have hs' : s = -(n : Int) := by omega
    have hpos : (0 : ℚ) < 2 ^ n := by positivity
    rw [hs', Int.neg_neg, Int.toNat_natCast, zpow_neg, zpow_natCast, ← div_eq_mul_inv,
      div_le_iff₀ hpos]
    have hzero : (-(n : Int)).toNat = 0 := by omega
    rw [hzero, pow_zero, mul_one]
    exact_mod_cast Iff.rfl

private theorem two_zpow_log2_le {n : Nat} (hn : 0 < n) : (2 : ℚ) ^ (n.log2 : Int) ≤ n := by
  rw [zpow_natCast]
  exact_mod_cast Nat.log2_self_le hn.ne'

private theorem lt_two_zpow_log2 (n : Nat) : (n : ℚ) < 2 ^ (n.log2 + 1 : Int) := by
  have h : (n : ℚ) < 2 ^ (n.log2 + 1) := by exact_mod_cast Nat.lt_log2_self
  rwa [← zpow_natCast] at h

/-- The exponent of a quotient: its power of two is at most the quotient and the next one is
more. -/
theorem quotientExponent_bounds {num den : Nat} (hnum : 0 < num) (hden : 0 < den) :
    (den : ℚ) * 2 ^ quotientExponent num den ≤ num ∧
      (num : ℚ) < den * 2 ^ (quotientExponent num den + 1) := by
  have htwo : (2 : ℚ) ≠ 0 := by norm_num
  have hnumLow := two_zpow_log2_le hnum
  have hnumHigh := lt_two_zpow_log2 num
  have hdenLow := two_zpow_log2_le hden
  have hdenHigh := lt_two_zpow_log2 den
  unfold quotientExponent
  dsimp only
  split
  · rename_i htest
    refine ⟨(mul_two_zpow_le_iff den num _).mp htest, ?_⟩
    calc (num : ℚ) < 2 ^ (num.log2 + 1 : Int) := hnumHigh
      _ = 2 ^ (den.log2 : Int) * 2 ^ ((num.log2 : Int) - den.log2 + 1) := by
        rw [← zpow_add₀ htwo]
        congr 1
        omega
      _ ≤ den * 2 ^ ((num.log2 : Int) - den.log2 + 1) := by gcongr
  · rename_i htest
    rw [mul_two_zpow_le_iff, not_le] at htest
    refine ⟨?_, by rwa [Int.sub_add_cancel]⟩
    calc (den : ℚ) * 2 ^ ((num.log2 : Int) - den.log2 - 1)
        ≤ 2 ^ (den.log2 + 1 : Int) * 2 ^ ((num.log2 : Int) - den.log2 - 1) := by gcongr
      _ = 2 ^ (num.log2 : Int) := by
        rw [← zpow_add₀ htwo]
        congr 1
        omega
      _ ≤ num := hnumLow

private theorem le_roundQuotient {num den k : Nat} (hden : 0 < den) (h : k * den ≤ num) :
    k ≤ roundQuotient num den := by
  have hclose : 2 * num ≤ (2 * roundQuotient num den + 1) * den := (roundQuotient_close hden).1
  by_contra! hlt
  have hmul : (2 * roundQuotient num den + 2) * den ≤ 2 * k * den :=
    Nat.mul_le_mul_right den (by omega)
  nlinarith

private theorem roundQuotient_le {num den k : Nat} (hden : 0 < den) (h : num ≤ k * den) :
    roundQuotient num den ≤ k := by
  have hclose : 2 * roundQuotient num den * den ≤ 2 * num + den := (roundQuotient_close hden).2
  by_contra! hlt
  have hmul : (2 * k + 2) * den ≤ 2 * roundQuotient num den * den :=
    Nat.mul_le_mul_right den (by omega)
  nlinarith

theorem roundQuotient_even_of_tie {num den : Nat} (hden : 0 < den)
    (h : 2 * num = (2 * roundQuotient num den + 1) * den) : roundQuotient num den % 2 = 0 := by
  have hsplit := Nat.div_add_mod num den
  have hrest := Nat.mod_lt num hden
  generalize hq : num / den = q at hsplit
  generalize hr : num % den = r at hsplit hrest
  have hqd : den * q = q * den := Nat.mul_comm _ _
  simp only [roundQuotient, hq, hr] at h ⊢
  split at h
  · simp only [Nat.add_mul, Nat.mul_assoc, Nat.one_mul] at h
    omega
  · split at h
    · simp only [Nat.add_mul, Nat.mul_add, Nat.mul_assoc, Nat.one_mul] at h
      omega
    · rw [if_neg (by omega), if_neg (by omega)]
      omega

/-- An even number is reached half a unit below it. -/
theorem le_roundQuotient_iff_of_even {num den k : Nat} (hden : 0 < den) (hk : k % 2 = 0) :
    k ≤ roundQuotient num den ↔ 2 * k * den ≤ 2 * num + den := by
  have hlow : 2 * num ≤ (2 * roundQuotient num den + 1) * den := (roundQuotient_close hden).1
  have hhigh : 2 * roundQuotient num den * den ≤ 2 * num + den := (roundQuotient_close hden).2
  constructor
  · intro h
    exact (Nat.mul_le_mul_right den (by omega)).trans hhigh
  · intro h
    by_contra! hlt
    have hmul : (2 * roundQuotient num den + 2) * den ≤ 2 * k * den :=
      Nat.mul_le_mul_right den (by omega)
    -- Then the quotient is a tie, and its even neighbour is the lower one.
    have htie : 2 * num = (2 * roundQuotient num den + 1) * den := by nlinarith
    have heven := roundQuotient_even_of_tie hden htie
    have hk' : (2 * roundQuotient num den + 3) * den ≤ 2 * k * den :=
      Nat.mul_le_mul_right den (by omega)
    nlinarith

/-- The scale of the nearest double: the place of the last bit of its significand. -/
def nearestScale (num den : Nat) : Int := max (quotientExponent num den - 52) (-1074)

def nearestSignificand (num den : Nat) : Nat :=
  roundQuotient (num * Nat.pow 2 (-nearestScale num den).toNat)
    (den * Nat.pow 2 (nearestScale num den).toNat)

private theorem nearestBits_eq {num : Nat} (hnum : 0 < num) (den : Nat) :
    nearestBits num den =
      (nearestScale num den + 1074).toNat * Nat.pow 2 52 + nearestSignificand num den := by
  rw [nearestBits, if_neg hnum.ne']
  rfl

section Bounds

variable {num den : Nat} (hnum : 0 < num) (hden : 0 < den)

include hnum hden

private theorem lt_of_nearestScale : (num : ℚ) < den * 2 ^ (nearestScale num den + 53) := by
  have hscale : quotientExponent num den + 1 ≤ nearestScale num den + 53 := by
    unfold nearestScale
    omega
  calc (num : ℚ) < den * 2 ^ (quotientExponent num den + 1) :=
        (quotientExponent_bounds hnum hden).2
    _ ≤ den * 2 ^ (nearestScale num den + 53) := by
      gcongr
      norm_num

private theorem le_of_nearestScale (hscale : -1074 < nearestScale num den) :
    (den : ℚ) * 2 ^ (nearestScale num den + 52) ≤ num := by
  have hexponent : nearestScale num den + 52 = quotientExponent num den := by
    unfold nearestScale at *
    omega
  rw [hexponent]
  exact (quotientExponent_bounds hnum hden).1

private theorem nearestSignificand_le : nearestSignificand num den ≤ 2 ^ 53 := by
  have hunit : 0 < den * Nat.pow 2 (nearestScale num den).toNat :=
    Nat.mul_pos hden (Nat.pow_pos (by decide))
  have hlt := lt_of_nearestScale hnum hden
  rw [zpow_add₀ (by norm_num)] at hlt
  apply roundQuotient_le hunit
  rw [← Nat.mul_assoc]
  apply le_of_lt
  rw [← not_le, mul_two_zpow_le_iff, not_le]
  push_cast
  norm_num at hlt ⊢
  linarith

private theorem le_nearestSignificand (hscale : -1074 < nearestScale num den) :
    2 ^ 52 ≤ nearestSignificand num den := by
  have hunit : 0 < den * Nat.pow 2 (nearestScale num den).toNat :=
    Nat.mul_pos hden (Nat.pow_pos (by decide))
  have hle := le_of_nearestScale hnum hden hscale
  rw [zpow_add₀ (by norm_num)] at hle
  apply le_roundQuotient hunit
  rw [← Nat.mul_assoc, mul_two_zpow_le_iff]
  push_cast
  norm_num at hle ⊢
  linarith

private theorem lt_of_nearestScale_le {k : Nat} (hscale : nearestScale num den ≤ k) :
    num < 2 ^ 53 * (2 ^ k * den) := by
  have hpow : (2 : ℚ) ^ (nearestScale num den + 53) ≤ 2 ^ ((k + 53 : Nat) : Int) :=
    zpow_le_zpow_right₀ (by norm_num) (by omega)
  have hlt : (num : ℚ) < den * 2 ^ ((k + 53 : Nat) : Int) :=
    (lt_of_nearestScale hnum hden).trans_le (by gcongr)
  have hnat : num < den * 2 ^ (k + 53) := by
    rw [zpow_natCast] at hlt
    exact_mod_cast hlt
  rw [Nat.pow_add] at hnat
  linarith

private theorem le_of_le_nearestScale {k : Nat} (hscale : k ≤ nearestScale num den) :
    2 ^ 52 * (2 ^ k * den) ≤ num := by
  have hpow : (2 : ℚ) ^ ((k + 52 : Nat) : Int) ≤ 2 ^ (nearestScale num den + 52) :=
    zpow_le_zpow_right₀ (by norm_num) (by omega)
  have hle : (den : ℚ) * 2 ^ ((k + 52 : Nat) : Int) ≤ num :=
    le_trans (by gcongr) (le_of_nearestScale hnum hden (by omega))
  have hnat : den * 2 ^ (k + 52) ≤ num := by
    rw [zpow_natCast] at hle
    exact_mod_cast hle
  rw [Nat.pow_add] at hnat
  linarith

omit hnum in
private theorem le_nearestSignificand_iff {k : Nat}
    (hscale : nearestScale num den = (k + 1 : Nat)) :
    2 ^ 53 ≤ nearestSignificand num den ↔ (2 ^ 54 - 1) * (2 ^ k * den) ≤ num := by
  have hunit : den * Nat.pow 2 ((k + 1 : Nat) : Int).toNat = 2 * (2 ^ k * den) := by
    rw [Int.toNat_natCast, Nat.pow_eq, Nat.pow_succ]
    ring
  have hneg : (-((k + 1 : Nat) : Int)).toNat = 0 := by omega
  have hpos : 0 < 2 * (2 ^ k * den) := by positivity
  rw [nearestSignificand, hscale, hunit, hneg, Nat.pow_eq, Nat.pow_zero, Nat.mul_one,
    le_roundQuotient_iff_of_even hpos (by norm_num)]
  generalize 2 ^ k * den = unit
  omega

end Bounds

/-- The bits of the nearest double reach those of `2^(k + 54)` exactly when the quotient is at most
`2^k` below that. -/
theorem le_nearestBits_iff {num den : Nat} (hden : 0 < den) (k : Nat) :
    (k + 1077) * 2 ^ 52 ≤ nearestBits num den ↔ (2 ^ 54 - 1) * 2 ^ k * den ≤ num := by
  have hunit : 0 < 2 ^ k * den := by positivity
  rw [Nat.mul_assoc]
  rcases Nat.eq_zero_or_pos num with rfl | hnum
  · have hbits : nearestBits 0 den = 0 := if_pos rfl
    rw [hbits]
    omega
  have hlow : -1074 ≤ nearestScale num den := le_max_right _ _
  have hle := nearestSignificand_le hnum hden
  rw [nearestBits_eq hnum, Nat.pow_eq]
  rcases lt_trichotomy (nearestScale num den) (k + 1 : Nat) with hscale | hscale | hscale
  · have hlt := lt_of_nearestScale_le hnum hden (show nearestScale num den ≤ k by omega)
    have hfield : (nearestScale num den + 1074).toNat ≤ k + 1074 := by omega
    generalize 2 ^ k * den = unit at *
    exact iff_of_false (by omega) (by omega)
  · have hfield : (nearestScale num den + 1074).toNat = k + 1075 := by omega
    rw [← le_nearestSignificand_iff hden hscale, hfield]
    omega
  · have hnormal := le_nearestSignificand hnum hden (by omega)
    have hfield : k + 1076 ≤ (nearestScale num den + 1074).toNat := by omega
    have hbits : (k + 1077) * 2 ^ 52 ≤
        (nearestScale num den + 1074).toNat * 2 ^ 52 + nearestSignificand num den := by
      calc (k + 1077) * 2 ^ 52 = (k + 1076) * 2 ^ 52 + 2 ^ 52 := Nat.succ_mul _ _
        _ ≤ _ := Nat.add_le_add (Nat.mul_le_mul_right _ hfield) hnormal
    refine iff_of_true hbits ?_
    have hge := le_of_le_nearestScale hnum hden (show ((k + 2 : Nat) : Int) ≤ _ by omega)
    rw [Nat.pow_add, Nat.mul_right_comm] at hge
    generalize 2 ^ k * den = unit at hge ⊢
    omega

/-- A quotient has no nearest double exactly when it reaches the overflow point. -/
theorem nearestDouble?_eq_none_iff {num den : Nat} (hden : 0 < den) :
    nearestDouble? num den = none ↔ overflowPoint * den ≤ num := by
  unfold nearestDouble? overflowPoint
  dsimp only
  rw [← le_nearestBits_iff hden 970, Nat.pow_eq]
  split
  · rename_i hlt
    simp only [reduceCtorEq, false_iff]
    omega
  · rename_i hlt
    simp only [true_iff]
    omega

end StoryPlayer
