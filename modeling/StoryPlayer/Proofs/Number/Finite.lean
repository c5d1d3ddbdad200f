import StoryPlayer.Number.Whole

/-!
# Doubles without a whole part

The bits of a double tell which kind of number it is: all bits of the exponent are set just in an
infinite double and in one that is no number, and these two differ in the fraction. So a double has
no whole part exactly if it is one of them.
-/

namespace StoryPlayer

open Float.Model Float.Model.UnpackedFloat

private theorem toNat_unpackExponent (b : BitVec Format.binary64.numBits) :
    (unpackExponent b).toNat = b.toNat / Nat.pow 2 52 % Nat.pow 2 11 := by
  simp [unpackExponent, BitVec.extractLsb, BitVec.extractLsb', Nat.shiftRight_eq_div_pow]

private theorem toNat_unpackMantissa (b : BitVec Format.binary64.numBits) :
    (unpackMantissa b).toNat = b.toNat % Nat.pow 2 52 := by
  simp [unpackMantissa, BitVec.extractLsb, BitVec.extractLsb']

private theorem unpackExponent_eq_iff (b : BitVec Format.binary64.numBits) :
    unpackExponent b = -1#_ ↔ b.toNat / Nat.pow 2 52 % Nat.pow 2 11 = 2047 := by
  rw [← BitVec.toNat_inj, toNat_unpackExponent]
  rfl

private theorem unpackMantissa_eq_iff (b : BitVec Format.binary64.numBits) :
    unpackMantissa b = 0#_ ↔ b.toNat % Nat.pow 2 52 = 0 := by
  rw [← BitVec.toNat_inj, toNat_unpackMantissa]
  rfl

private theorem unpack_of_infinite {b : BitVec Format.binary64.numBits}
    (hexponent : unpackExponent b = -1#_) (hmantissa : unpackMantissa b = 0#_) :
    ∃ sign, UnpackedFloat.unpack Format.binary64 b = .infinity sign := by
  refine ⟨Sign.ofBitVec (unpackSign b), ?_⟩
  delta UnpackedFloat.unpack
  exact (if_pos hexponent).trans (if_pos hmantissa)

private theorem unpack_of_undefined {b : BitVec Format.binary64.numBits}
    (hexponent : unpackExponent b = -1#_) (hmantissa : unpackMantissa b ≠ 0#_) :
    UnpackedFloat.unpack Format.binary64 b = .notANumber := by
  delta UnpackedFloat.unpack
  exact (if_pos hexponent).trans (if_neg hmantissa)

/-- A double is zero or finite, whatever its fraction, unless all bits of the exponent are set. -/
private theorem isFinite_unpack {b : BitVec Format.binary64.numBits} (h : unpackExponent b ≠ -1#_) :
    (UnpackedFloat.unpack Format.binary64 b).isFinite = true := by
  delta UnpackedFloat.unpack
  rw [if_neg h]
  by_cases hexponent : unpackExponent b = 0#_
  · rw [if_pos hexponent]
    by_cases hmantissa : unpackMantissa b = 0#_
    · rw [dif_pos hmantissa]
      rfl
    · rw [dif_neg hmantissa]
      rfl
  · rw [if_neg hexponent]
    rfl

private theorem not_isNaN_not_isInf {u : UnpackedFloat} (h : u.isFinite = true) :
    ¬ u.isNaN = true ∧ ¬ u.isInf = true := by
  cases u with
  | notANumber | infinity => cases h
  | zero | finite => exact ⟨Bool.false_ne_true, Bool.false_ne_true⟩

/-- The two kinds of doubles that are not finite, by the parts of their bits. -/
private theorem isNaN_isInf_unpack (b : BitVec Format.binary64.numBits) :
    ((UnpackedFloat.unpack Format.binary64 b).isNaN = true ↔
        unpackExponent b = -1#_ ∧ unpackMantissa b ≠ 0#_) ∧
      ((UnpackedFloat.unpack Format.binary64 b).isInf = true ↔
        unpackExponent b = -1#_ ∧ unpackMantissa b = 0#_) := by
  by_cases hexponent : unpackExponent b = -1#_
  · by_cases hmantissa : unpackMantissa b = 0#_
    · obtain ⟨sign, hunpack⟩ := unpack_of_infinite hexponent hmantissa
      rw [hunpack]
      exact ⟨iff_of_false Bool.false_ne_true fun h => h.2 hmantissa,
        iff_of_true rfl ⟨hexponent, hmantissa⟩⟩
    · rw [unpack_of_undefined hexponent hmantissa]
      exact ⟨iff_of_true rfl ⟨hexponent, hmantissa⟩,
        iff_of_false Bool.false_ne_true fun h => hmantissa h.2⟩
  · obtain ⟨hnumber, hbounded⟩ := not_isNaN_not_isInf (isFinite_unpack hexponent)
    exact ⟨iff_of_false hnumber fun h => hexponent h.1,
      iff_of_false hbounded fun h => hexponent h.1⟩

theorem isNaN_iff_bits (x : Float) :
    x.isNaN = true ↔ x.toBits.toNat / Nat.pow 2 52 % Nat.pow 2 11 = 2047 ∧
      x.toBits.toNat % Nat.pow 2 52 ≠ 0 := by
  have hkind := (isNaN_isInf_unpack x.toBits.toBitVec).1
  rwa [unpackExponent_eq_iff, Ne, unpackMantissa_eq_iff] at hkind

theorem isInf_iff_bits (x : Float) :
    x.isInf = true ↔ x.toBits.toNat / Nat.pow 2 52 % Nat.pow 2 11 = 2047 ∧
      x.toBits.toNat % Nat.pow 2 52 = 0 := by
  have hkind := (isNaN_isInf_unpack x.toBits.toBitVec).2
  rwa [unpackExponent_eq_iff, unpackMantissa_eq_iff] at hkind

/-- Why the double with the given bits has no whole part. -/
theorem wholePartOfBits_eq_error_iff (bits : Nat) (cause : NotFinite) :
    wholePartOfBits bits = .error cause ↔ bits / Nat.pow 2 52 % Nat.pow 2 11 = 2047 ∧
      cause = if bits % Nat.pow 2 52 = 0 then .infinite else .undefined := by
  rw [wholePartOfBits]
  by_cases hexponent : bits / Nat.pow 2 52 % Nat.pow 2 11 = 2047
  · rw [if_pos hexponent]
    constructor
    · intro h
      cases h
      exact ⟨hexponent, rfl⟩
    · rintro ⟨-, rfl⟩
      rfl
  · rw [if_neg hexponent]
    constructor
    · intro h
      split at h
      · cases h
      · split at h
        · cases h
        · cases h
    · rintro ⟨h, -⟩
      exact absurd h hexponent

theorem wholePart_eq_error_iff (x : Float) (cause : NotFinite) :
    wholePart x = .error cause ↔
      x.isNaN = true ∧ cause = .undefined ∨ x.isInf = true ∧ cause = .infinite := by
  rw [wholePart, wholePartOfBits_eq_error_iff, isNaN_iff_bits, isInf_iff_bits]
  by_cases hfraction : x.toBits.toNat % Nat.pow 2 52 = 0
  · simp [hfraction]
  · simp [hfraction]

end StoryPlayer
