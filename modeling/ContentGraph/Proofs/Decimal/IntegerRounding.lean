import ContentGraph.Decimal.Double
import Mathlib.Tactic.Positivity

/-!
Contract: which double an integer becomes.

Owns:
- `nearestInt`, an integer rounded to 53 significant bits;
- `exists_ofInt?`: the double nearest to an integer stands for that;
- `nearestInt_eq_iff_of_small`: an integer below `2 ^ 53` shares its double with no other.

Does not own: doubles of quotients that are no integers.
-/

namespace ContentGraph.Decimal.Double

/-- A natural number rounded to 53 significant bits, a half going to the even neighbour. -/
def nearestNat (value : Nat) : Nat :=
  divideToEven value (2 ^ (value.log2 - 52)) * 2 ^ (value.log2 - 52)

/-- An integer rounded to 53 significant bits, a half going to the even neighbour. -/
def nearestInt (value : Int) : Int :=
  value.sign * nearestNat value.natAbs

/-! ### Rounded quotients -/

theorem divideToEven_bounds (numerator denominator : Nat) :
    numerator / denominator ≤ divideToEven numerator denominator ∧
      divideToEven numerator denominator ≤ numerator / denominator + 1 := by
  unfold divideToEven
  dsimp only
  split_ifs <;> omega

theorem divideToEven_one (value : Nat) : divideToEven value 1 = value := by
  simp [divideToEven, Nat.mod_one]

/-- A quotient below a bound is not rounded beyond it. -/
theorem divideToEven_le {numerator denominator bound : Nat}
    (below : numerator < denominator * bound) : divideToEven numerator denominator ≤ bound := by
  have isBelow : numerator / denominator < bound := Nat.div_lt_of_lt_mul below
  have := (divideToEven_bounds numerator denominator).2
  omega

theorem le_divideToEven {numerator denominator bound : Nat} (positive : 0 < denominator)
    (above : denominator * bound ≤ numerator) : bound ≤ divideToEven numerator denominator := by
  have isAbove : bound ≤ numerator / denominator := by
    rwa [Nat.le_div_iff_mul_le positive, Nat.mul_comm]
  exact isAbove.trans (divideToEven_bounds numerator denominator).1

/-! ### Small and large numbers -/

theorem log2_le_of_small {value : Nat} (small : value < 2 ^ 53) : value.log2 ≤ 52 := by
  by_cases isZero : value = 0
  · simp [isZero]
  · have := (Nat.log2_lt isZero).mpr small
    omega

theorem nearestNat_of_small {value : Nat} (small : value < 2 ^ 53) : nearestNat value = value := by
  have short : value.log2 - 52 = 0 := Nat.sub_eq_zero_of_le (log2_le_of_small small)
  rw [nearestNat, short, pow_zero, divideToEven_one, Nat.mul_one]

/-- A number of more than 53 bits is not rounded below them. -/
theorem le_nearestNat_of_large {value : Nat} (large : 2 ^ 53 ≤ value) :
    2 ^ 53 ≤ nearestNat value := by
  have positive : value ≠ 0 := by
    rintro rfl
    simp at large
  have isLong : 53 ≤ value.log2 := (Nat.le_log2 positive).mpr large
  have above : 2 ^ (value.log2 - 52) * 2 ^ 52 ≤ value := by
    rw [← pow_add, Nat.sub_add_cancel (by omega)]
    exact Nat.log2_self_le positive
  have rounded := le_divideToEven (Nat.two_pow_pos _) above
  calc
    2 ^ 53 ≤ 2 ^ 52 * 2 ^ (value.log2 - 52) := by
      rw [← pow_add]
      exact Nat.pow_le_pow_right (by omega) (by omega)
    _ ≤ nearestNat value := Nat.mul_le_mul_right _ rounded

theorem natAbs_nearestInt (value : Int) : (nearestInt value).natAbs = nearestNat value.natAbs := by
  rw [nearestInt, Int.natAbs_mul, Int.natAbs_natCast]
  by_cases isZero : value = 0
  · subst isZero
    rfl
  · rw [Int.natAbs_sign_of_ne_zero isZero, Nat.one_mul]

theorem nearestInt_of_small {value : Int} (small : value.natAbs < 2 ^ 53) :
    nearestInt value = value := by
  rw [nearestInt, nearestNat_of_small small, Int.sign_mul_natAbs]

/-- An integer of at most 53 bits is rounded to the same integer as another only if they are
equal. -/
theorem nearestInt_eq_iff_of_small {value other : Int} (small : value.natAbs < 2 ^ 53) :
    nearestInt value = nearestInt other ↔ value = other := by
  constructor
  · intro same
    rw [nearestInt_of_small small] at same
    by_cases smallOther : other.natAbs < 2 ^ 53
    · rw [same, nearestInt_of_small smallOther]
    · have large := le_nearestNat_of_large (Nat.le_of_not_lt smallOther)
      rw [← natAbs_nearestInt, ← same] at large
      omega
  · rintro rfl
    rfl

/-! ### The double of an integer -/

/-- A natural number over a power of two, as a quotient of natural numbers. -/
private def scaled (value : Nat) (exponent : Int) : Nat × Nat :=
  if 0 ≤ exponent then (value, 1 * Nat.pow 2 exponent.toNat)
  else (value * Nat.pow 2 (-exponent).toNat, 1)

/-- The quotient whose integer part has a given number of bits. -/
private theorem scaled_log2 (value bits : Nat) :
    scaled value (value.log2 - bits) =
      (value * 2 ^ (bits - value.log2), 2 ^ (value.log2 - bits)) := by
  unfold scaled
  split
  · next long =>
      have noShift : bits - value.log2 = 0 := by omega
      simp [noShift]
  · next short =>
      have noShift : value.log2 - bits = 0 := by omega
      simp [noShift]

/-- Its numerator lies between the powers of two that the bits give. -/
private theorem scaled_bounds {value : Nat} (positive : value ≠ 0) (bits : Nat) :
    2 ^ (value.log2 - bits) * 2 ^ bits ≤ value * 2 ^ (bits - value.log2) ∧
      value * 2 ^ (bits - value.log2) < 2 ^ (value.log2 - bits) * 2 ^ (bits + 1) := by
  have lower := Nat.mul_le_mul_right (2 ^ (bits - value.log2)) (Nat.log2_self_le positive)
  have upper := Nat.mul_lt_mul_of_pos_right (@Nat.lt_log2_self value)
    (Nat.two_pow_pos (bits - value.log2))
  rw [← pow_add] at lower upper ⊢
  rw [← pow_add]
  rw [show value.log2 - bits + bits = value.log2 + (bits - value.log2) by omega]
  rw [show value.log2 - bits + (bits + 1) = value.log2 + 1 + (bits - value.log2) by omega]
  exact ⟨lower, upper⟩

/-- How many units of a double make one. -/
def unitsOfOne : Nat := 2 ^ 1074

/-- The mantissa of 53 bits, at its exponent, stands for the rounded number. -/
private theorem mantissa_shifted {value : Nat} (positive : value ≠ 0) :
    divideToEven (value * 2 ^ (52 - value.log2)) (2 ^ (value.log2 - 52)) *
        2 ^ ((value.log2 : Int) - 52 + 1074).toNat =
      nearestNat value * unitsOfOne := by
  unfold unitsOfOne
  by_cases short : value.log2 ≤ 52
  · have small : value < 2 ^ 53 := (Nat.log2_lt positive).mp (by omega)
    have isShift : ((value.log2 : Int) - 52 + 1074).toNat = 1074 - (52 - value.log2) := by omega
    rw [Nat.sub_eq_zero_of_le short, pow_zero, divideToEven_one, nearestNat_of_small small, isShift,
      Nat.mul_assoc, ← pow_add, Nat.add_sub_cancel' (by omega)]
  · have isShift : ((value.log2 : Int) - 52 + 1074).toNat = value.log2 - 52 + 1074 := by omega
    rw [Nat.sub_eq_zero_of_le (by omega : 52 ≤ value.log2), pow_zero, Nat.mul_one, nearestNat,
      isShift, pow_add, Nat.mul_assoc]

theorem unitsOfOne_pos : 0 < unitsOfOne := by
  unfold unitsOfOne
  positivity

/-- The double nearest to a positive number stands for the number in 53 significant bits. -/
theorem exists_ofRatio? {value : Nat} (positive : value ≠ 0) (small : value < 2 ^ 64)
    (negative : Bool) :
    ∃ x : Double, ofRatio? negative value 1 = some x ∧ x.negative = negative ∧
      x.mantissa * 2 ^ (x.exponent + 1074).toNat = nearestNat value * unitsOfOne := by
  have isShort : value.log2 < 64 := (Nat.log2_lt positive).mpr small
  have isGuess : max (-1074) ((value.log2 : Int) - (1 : Nat).log2 - 53) =
      value.log2 - (53 : Nat) := by
    have : (1 : Nat).log2 = 0 := by decide
    omega
  -- The first guess leaves one bit too many.
  have tooLong : ¬ (scaled value (value.log2 - (53 : Nat))).1 /
      (scaled value (value.log2 - (53 : Nat))).2 < Nat.pow 2 53 := by
    rw [scaled_log2, Nat.not_lt, Nat.le_div_iff_mul_le (Nat.two_pow_pos _), Nat.mul_comm]
    exact (scaled_bounds positive 53).1
  have isExponent : (value.log2 : Int) - (53 : Nat) + 1 = value.log2 - (52 : Nat) := by omega
  obtain ⟨above, below⟩ := scaled_bounds positive 52
  have isLong := le_divideToEven (Nat.two_pow_pos _) above
  have fits := divideToEven_le below
  have shifted := mantissa_shifted positive
  generalize isMantissa : divideToEven (value * 2 ^ (52 - value.log2)) (2 ^ (value.log2 - 52)) =
    mantissa at isLong fits shifted
  have unfolded : ofRatio? negative value 1 =
      if mantissa = Nat.pow 2 53 then
        ofParts? negative (Nat.pow 2 52) ((value.log2 : Int) - (52 : Nat) + 1)
      else ofParts? negative mantissa (value.log2 - (52 : Nat)) := by
    rw [ofRatio?, if_neg (by simp [positive]), isGuess]
    change
      (let exponent :=
        if (scaled value (value.log2 - (53 : Nat))).1 / (scaled value (value.log2 - (53 : Nat))).2 <
          Nat.pow 2 53 then (value.log2 : Int) - (53 : Nat) else value.log2 - (53 : Nat) + 1
      let rounded := divideToEven (scaled value exponent).1 (scaled value exponent).2
      if rounded = Nat.pow 2 53 then ofParts? negative (Nat.pow 2 52) (exponent + 1)
      else ofParts? negative rounded exponent) = _
    rw [if_neg tooLong, isExponent]
    dsimp only
    rw [scaled_log2, isMantissa]
  rw [unfolded]
  split
  · next full =>
      have canonical : IsCanonical (Nat.pow 2 52) ((value.log2 : Int) - (52 : Nat) + 1) :=
        ⟨by decide, by omega, by omega, fun less => absurd less (lt_irrefl _)⟩
      refine ⟨_, dif_pos canonical, rfl, ?_⟩
      have isShift : ((value.log2 : Int) - (52 : Nat) + 1 + 1074).toNat =
          1 + ((value.log2 : Int) - 52 + 1074).toNat := by omega
      rw [← shifted, full, isShift, pow_add, ← Nat.mul_assoc]
      rfl
  · next notFull =>
      have notFull : mantissa ≠ 2 ^ 53 := notFull
      have canonical : IsCanonical mantissa ((value.log2 : Int) - (52 : Nat)) := by
        refine ⟨?_, by omega, by omega, fun less => ?_⟩
        · show mantissa < 2 ^ 53
          omega
        · have : mantissa < 2 ^ 52 := less
          omega
      exact ⟨_, dif_pos canonical, rfl, shifted⟩

/-- The double nearest to an integer stands for the integer in 53 significant bits. -/
theorem exists_ofInt? {value : Int} (small : value.natAbs < 2 ^ 64) :
    ∃ x : Double, ofInt? value = some x ∧ x.units = nearestInt value * unitsOfOne := by
  by_cases isZero : value = 0
  · subst isZero
    refine ⟨zero false, rfl, ?_⟩
    have isNothing : nearestInt 0 = 0 := rfl
    rw [isNothing, Int.zero_mul, units, zero, if_neg Bool.false_ne_true, Nat.zero_mul]
    rfl
  · obtain ⟨x, isNearest, isSigned, isMagnitude⟩ :=
      exists_ofRatio? (Int.natAbs_ne_zero.mpr isZero) small (decide (value < 0))
    refine ⟨x, isNearest, ?_⟩
    have isUnits : ((x.mantissa * Nat.pow 2 (x.exponent + 1074).toNat : Nat) : Int) =
        (nearestNat value.natAbs : Int) * unitsOfOne := by
      rw [← Int.natCast_mul]
      exact congrArg _ isMagnitude
    rw [units, isSigned, isUnits, nearestInt]
    by_cases isNegative : value < 0
    · rw [if_pos (decide_eq_true isNegative), Int.sign_eq_neg_one_of_neg isNegative,
        Int.neg_one_mul, Int.neg_mul]
    · have isPositive : 0 < value := by omega
      rw [if_neg (by simpa using isNegative), Int.sign_eq_one_of_pos isPositive, Int.one_mul]

/-- Two integers have the same double exactly if they are the same in 53 significant bits. -/
theorem sameValue_ofInt? {value other : Int} (small : value.natAbs < 2 ^ 64)
    (smallOther : other.natAbs < 2 ^ 64) :
    ∃ x y, ofInt? value = some x ∧ ofInt? other = some y ∧
      x.sameValue y = decide (nearestInt value = nearestInt other) := by
  obtain ⟨x, isNearest, isUnits⟩ := exists_ofInt? small
  obtain ⟨y, isNearestOther, isUnitsOther⟩ := exists_ofInt? smallOther
  refine ⟨x, y, isNearest, isNearestOther, ?_⟩
  have positive : (unitsOfOne : Int) ≠ 0 :=
    Int.natCast_ne_zero.mpr (Nat.pos_iff_ne_zero.mp unitsOfOne_pos)
  rw [sameValue, isUnits, isUnitsOther, Bool.eq_iff_iff, beq_iff_eq, decide_eq_true_iff,
    Int.mul_eq_mul_right_iff positive]

end ContentGraph.Decimal.Double
