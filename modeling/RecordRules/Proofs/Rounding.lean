import RecordRules.Proofs.Widening

set_option autoImplicit false

namespace RecordRules.Binary64

theorem round_mono (den : Nat) {num larger : Nat} (le : num ≤ larger) :
    roundDiv num den ≤ roundDiv larger den := by
  have floors : num / den ≤ larger / den := Nat.div_le_div_right le
  have least := Nat.div_add_mod num den
  have most := Nat.div_add_mod larger den
  rw [roundDiv, roundDiv]
  by_cases same : num / den = larger / den
  · rw [same] at least ⊢
    have rests : num % den ≤ larger % den := by omega
    split_ifs <;> omega
  · split_ifs <;> omega

theorem round_bounds (num den low high : Nat) (someDen : 0 < den) (least : low * den ≤ num)
    (most : num < high * den) :
    low ≤ roundDiv num den ∧ roundDiv num den ≤ high := by
  have floorLeast : low ≤ num / den := (Nat.le_div_iff_mul_le someDen).mpr least
  have floorMost : num / den < high := (Nat.div_lt_iff_lt_mul someDen).mpr most
  rw [roundDiv]
  split_ifs <;> omega

theorem round_whole (num : Nat) : roundDiv num 1 = num := by
  simpa using round_multiple num 1 Nat.one_pos

def wholeSignificand (num : Nat) : Nat := roundDiv (num * 2 ^ (52 - num.log2)) (2 ^ (num.log2 - 52))

theorem whole_bounds {num : Nat} (filled : num ≠ 0) :
    leading * 2 ^ (num.log2 - 52) ≤ num * 2 ^ (52 - num.log2) ∧
      num * 2 ^ (52 - num.log2) < 2 * leading * 2 ^ (num.log2 - 52) := by
  have shift : leading * 2 ^ (num.log2 - 52) = 2 ^ num.log2 * 2 ^ (52 - num.log2) := by
    rw [← Nat.pow_add, show leading = 2 ^ 52 from rfl, ← Nat.pow_add]
    congr 1
    omega
  have positive : 0 < 2 ^ (52 - num.log2) := Nat.two_pow_pos _
  constructor
  · rw [shift]
    exact Nat.mul_le_mul_right _ (Nat.log2_self_le filled)
  · rw [Nat.mul_assoc, shift, ← Nat.mul_assoc, ← Nat.pow_succ']
    exact Nat.mul_lt_mul_of_pos_right Nat.lt_log2_self positive

theorem significand_bounds {num : Nat} (filled : num ≠ 0) :
    leading ≤ wholeSignificand num ∧ wholeSignificand num ≤ 2 * leading := by
  obtain ⟨least, most⟩ := whole_bounds filled
  exact round_bounds _ _ _ _ (Nat.two_pow_pos _) least most

theorem nearest_whole {num : Nat} (filled : num ≠ 0) :
    nearestMagnitude num 1 = min infinite ((num.log2 + 1022) * leading + wholeSignificand num) := by
  have scale : scaled num 1 (num.log2 - 52) = (num * 2 ^ (52 - num.log2), 2 ^ (num.log2 - 52)) := by
    by_cases large : 52 ≤ num.log2
    · rw [scaled, if_pos (by omega), Nat.one_shiftLeft,
        show ((num.log2 : Int) - 52).toNat = num.log2 - 52 by omega,
        show 52 - num.log2 = 0 by omega, Nat.pow_zero, Nat.mul_one]
    · rw [scaled, if_neg (by omega), Nat.shiftLeft_eq,
        show (-((num.log2 : Int) - 52)).toNat = 52 - num.log2 by omega,
        show num.log2 - 52 = 0 by omega, Nat.pow_zero]
  have unit : unitExponent num 1 = num.log2 - 52 := by
    have guess : (num.log2 : Int) - (1 : Nat).log2 - 52 = num.log2 - 52 := by
      rw [show (1 : Nat).log2 = 0 by decide]
      omega
    have full : leading ≤ num * 2 ^ (52 - num.log2) / 2 ^ (num.log2 - 52) :=
      (Nat.le_div_iff_mul_le (Nat.two_pow_pos _)).mpr (whole_bounds filled).1
    rw [unitExponent, guess, scale]
    simp only [Nat.not_lt.mpr full, if_false]
    omega
  rw [nearestMagnitude, if_neg filled, unit]
  simp only [scale]
  rw [show ((num.log2 : Int) - 52 + 1074).toNat = num.log2 + 1022 by omega, wholeSignificand]

theorem nearest_zero : nearestMagnitude 0 1 = 0 := rfl

theorem nearest_mono {num larger : Nat} (le : num ≤ larger) :
    nearestMagnitude num 1 ≤ nearestMagnitude larger 1 := by
  by_cases filled : num = 0
  · rw [filled, nearest_zero]
    exact Nat.zero_le _
  have largerFilled : larger ≠ 0 := by omega
  rw [nearest_whole filled, nearest_whole largerFilled]
  obtain ⟨_, most⟩ := significand_bounds filled
  obtain ⟨least, _⟩ := significand_bounds largerFilled
  have logs : num.log2 ≤ larger.log2 := (Nat.le_log2 largerFilled).mpr (Nat.le_trans (Nat.log2_self_le filled) le)
  rcases Nat.eq_or_lt_of_le logs with same | less
  · have significands : wholeSignificand num ≤ wholeSignificand larger := by
      rw [wholeSignificand, wholeSignificand, same]
      exact round_mono _ (Nat.mul_le_mul_right _ le)
    rw [same]
    omega
  · rw [leading] at *
    omega

theorem nearest_lt {num larger : Nat} (small : num < 2 ^ 53) (less : num < larger) :
    nearestMagnitude num 1 < nearestMagnitude larger 1 := by
  have largerFilled : larger ≠ 0 := by omega
  rw [nearest_whole largerFilled]
  obtain ⟨least, _⟩ := significand_bounds largerFilled
  rw [leading] at least
  by_cases filled : num = 0
  · rw [filled, nearest_zero, infinite]
    omega
  rw [nearest_whole filled]
  have few : num.log2 ≤ 52 := Nat.le_of_lt_succ ((Nat.log2_lt filled).mpr small)
  have exactSignificand : wholeSignificand num = num * 2 ^ (52 - num.log2) := by
    rw [wholeSignificand, show num.log2 - 52 = 0 by omega, Nat.pow_zero, round_whole]
  have most : wholeSignificand num < 2 * leading := by
    have below := (whole_bounds filled).2
    rwa [show num.log2 - 52 = 0 by omega, Nat.pow_zero, Nat.mul_one, ← exactSignificand] at below
  have logs : num.log2 ≤ larger.log2 :=
    (Nat.le_log2 largerFilled).mpr (Nat.le_trans (Nat.log2_self_le filled) (Nat.le_of_lt less))
  rcases Nat.eq_or_lt_of_le logs with same | fewer
  · have largerExact : wholeSignificand larger = larger * 2 ^ (52 - num.log2) := by
      rw [wholeSignificand, ← same, show num.log2 - 52 = 0 by omega, Nat.pow_zero, round_whole]
    have significands : wholeSignificand num < wholeSignificand larger := by
      rw [exactSignificand, largerExact]
      exact Nat.mul_lt_mul_of_pos_right less (Nat.two_pow_pos _)
    rw [← same, infinite]
    rw [leading] at *
    omega
  · rw [infinite]
    rw [leading] at *
    omega

theorem magnitude_of_magnitude (negative : Bool) (magnitude : Nat) (small : magnitude < signBit) :
    (ofMagnitude negative magnitude).magnitude = magnitude ∧
      (ofMagnitude negative magnitude).isNegative = negative := by
  rw [signBit] at small
  rw [Binary64.magnitude, isNegative, ofMagnitude, UInt64.toNat_ofNat', signBit]
  cases negative with
  | false => exact ⟨by simp only [Bool.false_eq_true, if_false]; omega, by simp; omega⟩
  | true => exact ⟨by simp only [if_true]; omega, by simp; omega⟩

theorem finite_number {x : Binary64} (finite : x.isFinite = true) : x.isNaN = false := by
  rw [isFinite, decide_eq_true_iff] at finite
  rw [isNaN, decide_eq_false_iff_not]
  omega

theorem nearest_small (num den : Nat) : nearestMagnitude num den ≤ infinite := by
  rw [nearestMagnitude]
  split
  · exact Nat.zero_le _
  · exact Nat.min_le_left _ _

theorem int_magnitude (value : Int) : (ofInt value).magnitude = nearestMagnitude value.natAbs 1 ∧
    (ofInt value).isNegative = decide (value < 0) :=
  magnitude_of_magnitude _ _ (Nat.lt_of_le_of_lt (nearest_small _ _) (by decide))

theorem of_int_number (value : Int) : (ofInt value).isNaN = false := by
  rw [isNaN, (int_magnitude value).1, decide_eq_false_iff_not]
  exact Nat.not_lt.mpr (nearest_small _ _)

theorem key_of_int (value : Int) :
    (ofInt value).key =
      if value < 0 then -(nearestMagnitude value.natAbs 1 : Int) else nearestMagnitude value.natAbs 1 := by
  rw [key, (int_magnitude value).1, (int_magnitude value).2]
  simp

theorem key_mono {a b : Int} (le : a ≤ b) : (ofInt a).key ≤ (ofInt b).key := by
  rw [key_of_int, key_of_int]
  split_ifs with aNegative bNegative
  · have sizes := nearest_mono (show b.natAbs ≤ a.natAbs by omega)
    omega
  · omega
  · omega
  · have sizes := nearest_mono (show a.natAbs ≤ b.natAbs by omega)
    omega

theorem key_apart {a b : Int} (less : a < b) (small : a.natAbs < 2 ^ 53 ∨ b.natAbs < 2 ^ 53) :
    (ofInt a).key < (ofInt b).key := by
  rw [key_of_int, key_of_int]
  split_ifs with aNegative bNegative
  · have sizes := nearest_lt (show b.natAbs < 2 ^ 53 by omega) (show b.natAbs < a.natAbs by omega)
    omega
  · have positive := nearest_lt (show 0 < 2 ^ 53 by decide) (show 0 < a.natAbs by omega)
    omega
  · omega
  · have sizes := nearest_lt (show a.natAbs < 2 ^ 53 by omega) (show a.natAbs < b.natAbs by omega)
    omega

end RecordRules.Binary64
