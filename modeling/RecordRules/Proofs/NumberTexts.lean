import RecordRules.Proofs.Rounding
import RecordRules.Proofs.ShortestDigits

set_option autoImplicit false

namespace RecordRules

open Decimal

namespace Binary64

theorem word_of_parts {x y : Binary64} (sign : x.isNegative = y.isNegative)
    (magnitude : x.magnitude = y.magnitude) : x = y := by
  have xSmall := x.bits.toNat_lt
  have ySmall := y.bits.toNat_lt
  have sides : signBit ≤ x.bits.toNat ↔ signBit ≤ y.bits.toNat := decide_eq_decide.mp sign
  rw [signBit] at sides
  rw [Binary64.magnitude, Binary64.magnitude, signBit] at magnitude
  have bits : x.bits = y.bits := UInt64.toNat_inj.mp (by omega)
  cases x
  exact congrArg Binary64.mk bits

theorem word_of_key {x y : Binary64} (same : x.key = y.key)
    (zeros : x.isZero = true → y.isZero = true → x = y) : x = y := by
  rw [key, key] at same
  by_cases zero : x.magnitude = 0
  · have other : y.magnitude = 0 := by split_ifs at same <;> omega
    exact zeros (decide_eq_true zero) (decide_eq_true other)
  · refine word_of_parts ?_ (by split_ifs at same <;> omega)
    rw [Bool.eq_iff_iff]
    split_ifs at same with xNegative yNegative yNegative
    · exact iff_of_true xNegative yNegative
    · omega
    · omega
    · exact iff_of_false xNegative yNegative

theorem shortest_size (x : Binary64) : (shortest x).negative = x.isNegative ∧
    ((shortest x).size = 0 ∧ x.magnitude = 0 ∨ 0 < (shortest x).size ∧ Nearest x.magnitude (shortest x).size) := by
  by_cases zero : x.magnitude = 0
  · have found : shortest x = ⟨x.isNegative, 0, 0⟩ := by
      rw [shortest, unpack_magnitude, zero]
      rfl
    rw [found]
    refine ⟨rfl, .inl ⟨?_, zero⟩⟩
    rw [size]
    norm_num
  · obtain ⟨sign, near, _⟩ := shortest_found x zero
    exact ⟨sign, .inr ⟨lt_of_lt_of_le (low_positive zero) near.1, near⟩⟩

theorem finite_text {x : Binary64} (finite : x.isFinite = true) :
    x.text = String.ofList (shortest x).positional := by
  rw [text, special?, finite_number finite, finite]
  rfl

theorem infinite_text {x : Binary64} (number : x.isNaN = false) (notFinite : x.isFinite = false) :
    x.magnitude = infinite ∧ x.text = if x.isNegative then "-inf" else "inf" := by
  refine ⟨?_, ?_⟩
  · rw [isFinite, decide_eq_false_iff_not] at notFinite
    rw [isNaN, decide_eq_false_iff_not] at number
    omega
  · rw [text, special?, number, notFinite]
    rfl

theorem finite_text_read {x y : Binary64} (xFinite : x.isFinite = true) (yNumber : y.isNaN = false)
    (yInfinite : y.isFinite = false) : x.text ≠ y.text := by
  intro same
  have unread (negative : Bool) : read? (if negative then "-inf" else "inf").toList = none := by
    cases negative <;> decide
  obtain ⟨back, read, _⟩ := read_positional (shortest x)
  rw [finite_text xFinite, (infinite_text yNumber yInfinite).2] at same
  have spelled := congrArg String.toList same
  rw [String.toList_ofList] at spelled
  rw [spelled, unread] at read
  cases read

theorem text_injective {x y : Binary64} (xNumber : x.isNaN = false) (yNumber : y.isNaN = false)
    (same : x.text = y.text) : x = y := by
  cases xFinite : x.isFinite with
  | false =>
      cases yFinite : y.isFinite with
      | true => exact absurd same.symm (finite_text_read yFinite xNumber xFinite)
      | false =>
          obtain ⟨xMagnitude, xText⟩ := infinite_text xNumber xFinite
          obtain ⟨yMagnitude, yText⟩ := infinite_text yNumber yFinite
          refine word_of_parts ?_ (xMagnitude.trans yMagnitude.symm)
          rw [xText, yText] at same
          revert same
          cases x.isNegative <;> cases y.isNegative <;> decide
  | true =>
      cases yFinite : y.isFinite with
      | false => exact absurd same (finite_text_read xFinite yNumber yFinite)
      | true =>
          obtain ⟨back, read, backSign, backSize⟩ := read_positional (shortest x)
          obtain ⟨other, otherRead, otherSign, otherSize⟩ := read_positional (shortest y)
          rw [finite_text xFinite, finite_text yFinite, String.ofList_inj] at same
          obtain rfl : back = other := Option.some.inj (read.symm.trans (same ▸ otherRead))
          obtain ⟨xSign, xSize⟩ := shortest_size x
          obtain ⟨ySign, ySize⟩ := shortest_size y
          refine word_of_parts (by rw [← xSign, ← ySign, ← backSign, otherSign]) ?_
          rw [← backSize] at xSize
          rw [← otherSize] at ySize
          rcases xSize with ⟨xNone, xZero⟩ | ⟨xPositive, xNear⟩
          · rcases ySize with ⟨_, yZero⟩ | ⟨yPositive, _⟩
            · exact xZero.trans yZero.symm
            · exact absurd xNone yPositive.ne'
          · rcases ySize with ⟨yNone, _⟩ | ⟨_, yNear⟩
            · exact absurd yNone xPositive.ne'
            · exact nearest_unique xNear yNear

theorem exact_word {size : Nat} (filled : size ≠ 0) (small : size < 2 ^ 53) :
    nearestMagnitude size 1 < infinite ∧ power (nearestMagnitude size 1) = (size.log2 : Int) - 52 ∧
      significand (nearestMagnitude size 1) = size * 2 ^ (52 - size.log2) := by
  have few : size.log2 ≤ 52 := Nat.le_of_lt_succ ((Nat.log2_lt filled).mpr small)
  obtain ⟨least, most⟩ := whole_bounds filled
  have unscaled : size.log2 - 52 = 0 := by omega
  have word : nearestMagnitude size 1 = (size.log2 + 1022) * leading + size * 2 ^ (52 - size.log2) := by
    rw [nearest_whole filled, wholeSignificand, unscaled, Nat.pow_zero, round_whole]
    rw [unscaled, Nat.pow_zero, Nat.mul_one] at most
    rw [leading, infinite] at *
    omega
  rw [unscaled, Nat.pow_zero, Nat.mul_one] at least most
  rw [leading] at *
  refine ⟨?_, ?_, ?_⟩
  · rw [word, infinite]
    omega
  · rw [power, word, leading]
    split <;> omega
  · rw [significand, word, leading]
    split <;> omega

theorem exact_near {size : Nat} (filled : size ≠ 0) (small : size < 2 ^ 53) :
    (significand (nearestMagnitude size 1) : ℚ) * 2 ^ power (nearestMagnitude size 1) = size ∧
      ∀ value, Nearest (nearestMagnitude size 1) value → value - size ≤ 1 / 2 ∧ size - value ≤ 1 / 2 := by
  obtain ⟨_, scale, exactly⟩ := exact_word filled small
  have few : size.log2 ≤ 52 := Nat.le_of_lt_succ ((Nat.log2_lt filled).mpr small)
  have whole : (significand (nearestMagnitude size 1) : ℚ) * 2 ^ power (nearestMagnitude size 1) = size := by
    rw [scale, exactly]
    push_cast
    rw [mul_assoc, ← zpow_natCast, ← zpow_add₀ (by norm_num), show ((52 - size.log2 : Nat) : Int) +
      (size.log2 - 52) = 0 by omega, zpow_zero, mul_one]
  refine ⟨whole, ?_⟩
  generalize nearestMagnitude size 1 = magnitude at *
  have unit : (2 : ℚ) ^ (power magnitude - 2) ≤ 1 / 4 := by
    rw [show (1 / 4 : ℚ) = 2 ^ (-2 : Int) by norm_num]
    exact zpow_le_zpow_right₀ (by norm_num) (by omega)
  have positive : (0 : ℚ) < 2 ^ (power magnitude - 2) := by positivity
  have marginMost : (margin magnitude : ℚ) ≤ 2 := by exact_mod_cast (margin_bounds magnitude).2
  have marginScaled := mul_le_mul_of_nonneg_right marginMost positive.le
  rintro value ⟨above, below, _⟩
  rw [low] at above
  rw [high] at below
  rw [unit_quarter] at whole
  constructor <;> linarith

-- A grid of whole numbers meets the integer, so that the decimal is whole, and then it is the integer.
theorem whole_shortest {x : Binary64} {size : Nat} (filled : size ≠ 0) (small : size < 2 ^ 53)
    (word : x.magnitude = nearestMagnitude size 1) :
    ∃ count : Nat, (shortest x).exponent = count ∧ (shortest x).coefficient * 10 ^ count = size := by
  have positive : x.magnitude ≠ 0 := by
    have more := nearest_lt (show 0 < 2 ^ 53 by decide) (Nat.pos_of_ne_zero filled)
    omega
  obtain ⟨exactly, around⟩ := exact_near filled small
  rw [← word] at exactly around
  obtain ⟨_, near, coarse⟩ := shortest_found x positive
  have proper := interval_proper positive
  have middle := (interval_ends positive).2.1.trans exactly
  have somePlaces := places_whole proper.den filled middle
  have fewPlaces : (digits size).length ≤ 16 :=
    (Nat.length_toDigits_le_iff (by decide) (by decide)).mpr (Nat.lt_trans small (by decide))
  have firstPlace : 0 < (digits size).length := Nat.length_toDigits_pos
  have onWhole : (intervalOf x.magnitude).middle = (size : ℚ) * 10 ^ (0 : Int) := by
    rw [middle, zpow_zero, mul_one]
  obtain ⟨hit, offer⟩ := on_grid_exact proper onWhole
  obtain ⟨count, exponent⟩ := Int.eq_ofNat_of_zero_le (coarse 0 hit offer (by omega) (by omega))
  obtain ⟨above, below⟩ := around _ near
  rw [Decimal.size, exponent] at above below
  refine ⟨count, exponent, ?_⟩
  have atMost : (((shortest x).coefficient * 10 ^ count : Nat) : ℚ) < size + 1 := by
    push_cast
    rw [← zpow_natCast]
    linarith
  have atLeast : (size : ℚ) < ((shortest x).coefficient * 10 ^ count : Nat) + 1 := by
    push_cast
    rw [← zpow_natCast]
    linarith
  have most : (shortest x).coefficient * 10 ^ count < size + 1 := by exact_mod_cast atMost
  have least : size < (shortest x).coefficient * 10 ^ count + 1 := by exact_mod_cast atLeast
  omega

theorem integer_text (value : Int) (small : value.natAbs ≤ 2 ^ 53) : (ofInt value).text = toString value := by
  rcases Nat.eq_or_lt_of_le small with largest | small
  · obtain rfl | rfl : value = 2 ^ 53 ∨ value = -2 ^ 53 := by omega
    · decide
    · decide
  by_cases filled : value.natAbs = 0
  · obtain rfl := Int.natAbs_eq_zero.mp filled
    rfl
  obtain ⟨magnitude, sign⟩ := int_magnitude value
  obtain ⟨count, exponent, exactly⟩ := whole_shortest filled small magnitude
  have finite : (ofInt value).isFinite = true := by
    rw [isFinite, magnitude, decide_eq_true_iff]
    exact (exact_word filled small).1
  have someCoefficient : (shortest (ofInt value)).coefficient ≠ 0 := by
    intro none
    rw [none, Nat.zero_mul] at exactly
    exact filled exactly.symm
  rw [finite_text finite, int_text, positional, (shortest_size _).1, sign, exponent]
  simp only [Int.natCast_nonneg, if_true, Int.toNat_natCast, ← exactly, digits_tenfold someCoefficient]

end Binary64

end RecordRules
