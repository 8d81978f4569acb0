import Mathlib.Algebra.Field.Rat
import Mathlib.Algebra.GroupWithZero.Basic
import Mathlib.Tactic.NormNum
import Mathlib.Tactic.Ring
import RecordRules.Numeric.Binary64

set_option autoImplicit false

namespace RecordRules

inductive Quantity where
  | finite (negative : Bool) (magnitude : ℚ)
  | infinite (negative : Bool)
  | notNumber

structure WordLayout where
  exponentBits : Nat
  fractionBits : Nat

namespace WordLayout

def single : WordLayout := ⟨8, 23⟩

def double : WordLayout := ⟨11, 52⟩

def bias (layout : WordLayout) : Nat := 2 ^ (layout.exponentBits - 1) - 1

-- An exponent of zeros has the unit of the next one, but no leading digit before the fraction.
def quantity (layout : WordLayout) (negative : Bool) (exponent fraction : Nat) : Quantity :=
  if exponent = 2 ^ layout.exponentBits - 1 then
    if fraction = 0 then .infinite negative else .notNumber
  else if exponent = 0 then
    .finite negative (fraction * 2 ^ (1 - layout.bias - layout.fractionBits : Int))
  else
    .finite negative
      ((2 ^ layout.fractionBits + fraction) * 2 ^ (exponent - layout.bias - layout.fractionBits : Int))

def read (layout : WordLayout) (word : Nat) : Quantity :=
  layout.quantity (word / 2 ^ (layout.exponentBits + layout.fractionBits) % 2 = 1)
    (word / 2 ^ layout.fractionBits % 2 ^ layout.exponentBits) (word % 2 ^ layout.fractionBits)

end WordLayout

namespace Binary64

theorem read_fields (negative : Bool) (exponent fraction : Nat) (low : exponent < 2 ^ 11)
    (short : fraction < 2 ^ 52) :
    WordLayout.double.read (ofMagnitude negative (exponent * leading + fraction)).bits.toNat =
      WordLayout.double.quantity negative exponent fraction := by
  have word : (ofMagnitude negative (exponent * leading + fraction)).bits.toNat =
      negative.toNat * 2 ^ 63 + exponent * 2 ^ 52 + fraction := by
    rw [ofMagnitude, UInt64.toNat_ofNat']
    cases negative <;> simp [leading, signBit] <;> omega
  have sign : negative.toNat < 2 := negative.toNat_lt
  have first : (negative.toNat * 2 ^ 63 + exponent * 2 ^ 52 + fraction) / 2 ^ 63 % 2 = negative.toNat := by omega
  have second : (negative.toNat * 2 ^ 63 + exponent * 2 ^ 52 + fraction) / 2 ^ 52 % 2 ^ 11 = exponent := by omega
  have third : (negative.toNat * 2 ^ 63 + exponent * 2 ^ 52 + fraction) % 2 ^ 52 = fraction := by omega
  simp only [word, WordLayout.read, WordLayout.double, first, second, third]
  cases negative <;> rfl

theorem widen_large (negative : Bool) (fraction : Nat) :
    WordLayout.double.quantity negative 2047 (fraction * 2 ^ 29) =
      WordLayout.single.quantity negative 255 fraction := by
  simp [WordLayout.quantity, WordLayout.single, WordLayout.double]

theorem widen_normal (negative : Bool) (exponent fraction : Nat) (someBit : exponent ≠ 0) (low : exponent < 255) :
    WordLayout.double.quantity negative (exponent + 896) (fraction * 2 ^ 29) =
      WordLayout.single.quantity negative exponent fraction := by
  have unit : (2 : ℚ) ^ (exponent - 150 : Int) = 2 ^ 29 * 2 ^ (exponent - 179 : Int) := by
    rw [← zpow_natCast, ← zpow_add₀ two_ne_zero]
    congr 1
    omega
  have wide : ((exponent + 896 : Nat) : Int) - WordLayout.double.bias - WordLayout.double.fractionBits =
      exponent - 179 := by
    simp [WordLayout.double, WordLayout.bias]
    omega
  have narrow : (exponent : Int) - WordLayout.single.bias - WordLayout.single.fractionBits = exponent - 150 := by
    simp [WordLayout.single, WordLayout.bias]
    omega
  rw [WordLayout.quantity, WordLayout.quantity, if_neg (by simp [WordLayout.double]; omega), if_neg (by omega),
    if_neg (by simp [WordLayout.single]; omega), if_neg someBit, wide, narrow, unit]
  simp only [WordLayout.double, WordLayout.single]
  push_cast
  ring_nf

theorem round_multiple (num den : Nat) (someDen : 0 < den) : roundDiv (num * den) den = num := by
  simp only [roundDiv, Nat.mul_mod_left, Nat.mul_zero, someDen, if_true]
  exact Nat.mul_div_cancel num someDen

-- The leading digit of a number below the normal ones is shifted to the front of the significand, and
-- the exponent tells by how far.
theorem nearest_below (fraction : Nat) (filled : fraction ≠ 0) (short : fraction < 2 ^ 23) :
    leading ≤ fraction * 2 ^ (52 - fraction.log2) ∧ fraction * 2 ^ (52 - fraction.log2) < 2 * leading ∧
      nearestMagnitude fraction (1 <<< 149) =
        (fraction.log2 + 873) * leading + fraction * 2 ^ (52 - fraction.log2) := by
  have few : fraction.log2 < 23 := (Nat.log2_lt filled).mpr short
  have joined : 2 ^ fraction.log2 * 2 ^ (52 - fraction.log2) = leading := by
    rw [← Nat.pow_add, show fraction.log2 + (52 - fraction.log2) = 52 by omega]
    rfl
  have least : leading ≤ fraction * 2 ^ (52 - fraction.log2) := by
    rw [← joined]
    exact Nat.mul_le_mul_right _ (Nat.log2_self_le filled)
  have most : fraction * 2 ^ (52 - fraction.log2) < 2 * leading := by
    rw [← joined, ← Nat.mul_assoc, ← Nat.pow_succ']
    exact Nat.mul_lt_mul_of_pos_right Nat.lt_log2_self (Nat.two_pow_pos _)
  have scale : scaled fraction (1 <<< 149) (fraction.log2 - 201) =
      (fraction * 2 ^ (52 - fraction.log2) * 2 ^ 149, 2 ^ 149) := by
    rw [scaled, if_neg (by omega), Nat.shiftLeft_eq, Nat.mul_assoc, ← Nat.pow_add,
      show (-((fraction.log2 : Int) - 201)).toNat = 52 - fraction.log2 + 149 by omega]
    rfl
  have unit : unitExponent fraction (1 <<< 149) = fraction.log2 - 201 := by
    have guess : (fraction.log2 : Int) - (1 <<< 149).log2 - 52 = fraction.log2 - 201 := by
      rw [Nat.one_shiftLeft, Nat.log2_two_pow]
      omega
    rw [unitExponent, guess, scale]
    simp only [Nat.mul_div_cancel _ (Nat.two_pow_pos 149), Nat.not_lt.mpr least, if_false]
    omega
  refine ⟨least, most, ?_⟩
  rw [nearestMagnitude, if_neg filled, unit]
  simp only [scale, round_multiple _ _ (Nat.two_pow_pos 149)]
  rw [show ((fraction.log2 : Int) - 201 + 1074).toNat = fraction.log2 + 873 by omega]
  refine Nat.min_eq_right ?_
  rw [infinite]
  rw [leading] at most ⊢
  omega

theorem widen_below (negative : Bool) (fraction : Nat) (short : fraction < 2 ^ 23) :
    WordLayout.double.read (ofRatio negative fraction (1 <<< 149)).bits.toNat =
      WordLayout.single.quantity negative 0 fraction := by
  by_cases filled : fraction = 0
  · subst filled
    have zero := read_fields negative 0 0 (by decide) (by decide)
    rw [ofRatio, nearestMagnitude, if_pos rfl, ← Nat.zero_mul leading, ← Nat.add_zero (0 * leading), zero]
    simp [WordLayout.quantity, WordLayout.double, WordLayout.single]
  · obtain ⟨least, most, nearest⟩ := nearest_below fraction filled short
    have few : fraction.log2 < 23 := (Nat.log2_lt filled).mpr short
    generalize shifted : fraction * 2 ^ (52 - fraction.log2) = significand at least most nearest
    rw [leading] at least most
    have fields : (fraction.log2 + 873) * leading + significand =
        (fraction.log2 + 874) * leading + (significand - 2 ^ 52) := by
      rw [leading]
      omega
    have whole : (2 : ℚ) ^ 52 + (significand - 2 ^ 52 : Nat) = fraction * 2 ^ (52 - fraction.log2) := by
      rw [Nat.cast_sub (by omega), ← shifted]
      push_cast
      ring
    have unit : (2 : ℚ) ^ (52 - fraction.log2) * 2 ^ ((fraction.log2 : Int) - 201) = 2 ^ (-149 : Int) := by
      rw [← zpow_natCast, ← zpow_add₀ two_ne_zero]
      congr 1
      omega
    have wide : ((fraction.log2 + 874 : Nat) : Int) - WordLayout.double.bias - WordLayout.double.fractionBits =
        fraction.log2 - 201 := by
      simp [WordLayout.double, WordLayout.bias]
      omega
    rw [ofRatio, nearest, fields, read_fields negative _ _ (by omega) (by omega), WordLayout.quantity,
      WordLayout.quantity, if_neg (by simp [WordLayout.double]; omega), if_neg (by omega),
      if_neg (by simp [WordLayout.single]), if_pos rfl, wide]
    simp only [WordLayout.double, WordLayout.single, WordLayout.bias]
    rw [whole, mul_assoc, unit]
    rfl

theorem read_single_word (word : Nat) (bound : word < 2 ^ 32) :
    WordLayout.single.read word =
      WordLayout.single.quantity (2 ^ 31 ≤ word) (word % 2 ^ 31 / 2 ^ 23) (word % 2 ^ 23) := by
  have sign : (word / 2 ^ 31 % 2 = 1) = (2 ^ 31 ≤ word) := by
    rw [eq_iff_iff]
    omega
  have exponent : word / 2 ^ 23 % 2 ^ 8 = word % 2 ^ 31 / 2 ^ 23 := by omega
  simp only [WordLayout.read, WordLayout.single, exponent, sign]

theorem of_single_fields (word : UInt32) :
    ofSingle word =
      if word.toNat % 2 ^ 31 / 2 ^ 23 = 255 then
        ofMagnitude (2 ^ 31 ≤ word.toNat) (2047 * leading + word.toNat % 2 ^ 23 * 2 ^ 29)
      else if word.toNat % 2 ^ 31 / 2 ^ 23 = 0 then
        ofRatio (2 ^ 31 ≤ word.toNat) (word.toNat % 2 ^ 23) (1 <<< 149)
      else
        ofMagnitude (2 ^ 31 ≤ word.toNat)
          ((word.toNat % 2 ^ 31 / 2 ^ 23 + 896) * leading + word.toNat % 2 ^ 23 * 2 ^ 29) := by
  simp only [ofSingle, Nat.shiftLeft_eq]
  rfl

theorem read_of_single (word : UInt32) :
    WordLayout.double.read (ofSingle word).bits.toNat = WordLayout.single.read word.toNat := by
  have bound : word.toNat < 2 ^ 32 := word.toNat_lt
  have low : word.toNat % 2 ^ 31 / 2 ^ 23 < 256 := by omega
  have short : word.toNat % 2 ^ 23 < 2 ^ 23 := Nat.mod_lt _ (Nat.two_pow_pos 23)
  rw [read_single_word word.toNat bound, of_single_fields]
  generalize word.toNat % 2 ^ 31 / 2 ^ 23 = exponent at low
  generalize word.toNat % 2 ^ 23 = fraction at short
  split
  case isTrue large => rw [large, read_fields _ 2047 _ (by decide) (by omega), widen_large]
  case isFalse notLarge =>
    split
    case isTrue below => rw [below, widen_below _ fraction short]
    case isFalse normal =>
      rw [read_fields _ _ _ (by omega) (by omega), widen_normal _ exponent fraction normal (by omega)]

end Binary64

end RecordRules
