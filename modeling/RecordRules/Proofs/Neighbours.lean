import Mathlib.Algebra.Order.Field.Power
import Mathlib.Tactic.Linarith
import Mathlib.Tactic.LinearCombination
import Mathlib.Tactic.Ring
import RecordRules.Numeric.Decimal

set_option autoImplicit false

namespace RecordRules.Binary64

def significand (magnitude : Nat) : Nat :=
  if magnitude / leading = 0 then magnitude % leading else leading + magnitude % leading

def power (magnitude : Nat) : Int :=
  if magnitude / leading = 0 then -1074 else (magnitude / leading : Nat) - 1075

theorem unpack_magnitude (x : Binary64) : x.unpack = (significand x.magnitude, power x.magnitude) := by
  rw [unpack, significand, power]
  split <;> rfl

-- How far the lower end is, in quarters of a unit: two, or one where the neighbour below has smaller units.
def margin (magnitude : Nat) : Nat :=
  if leading ≤ magnitude && significand magnitude = leading then 1 else 2

theorem margin_bounds (magnitude : Nat) : 1 ≤ margin magnitude ∧ margin magnitude ≤ 2 := by
  rw [margin]
  split <;> omega

theorem significand_positive {magnitude : Nat} (filled : magnitude ≠ 0) : 0 < significand magnitude := by
  rw [significand, leading]
  split <;> omega

theorem significand_small (magnitude : Nat) : significand magnitude < 2 ^ 53 := by
  rw [significand, leading]
  split <;> omega

theorem significand_margin (magnitude : Nat) :
    4 * significand magnitude < 10 ^ 16 * (margin magnitude + 2) := by
  have small := significand_small magnitude
  rw [margin]
  split
  case isTrue start =>
    have exactly : significand magnitude = leading := by
      simpa using (Bool.and_eq_true _ _).mp start |>.2
    rw [leading] at exactly
    omega
  case isFalse => omega

theorem significand_even (magnitude : Nat) : significand magnitude % 2 = magnitude % 2 := by
  rw [significand, leading]
  split <;> omega

theorem unit_quarter (exponent : Int) : (2 : ℚ) ^ exponent = 4 * 2 ^ (exponent - 2) := by
  have splitOff : exponent = 2 + (exponent - 2) := by ring
  rw [splitOff, zpow_add₀ (by norm_num), ← splitOff]
  norm_num

def low (magnitude : Nat) : ℚ := (4 * significand magnitude - margin magnitude) * 2 ^ (power magnitude - 2)

def high (magnitude : Nat) : ℚ := (4 * significand magnitude + 2) * 2 ^ (power magnitude - 2)

def Nearest (magnitude : Nat) (value : ℚ) : Prop :=
  low magnitude ≤ value ∧ value ≤ high magnitude ∧
    (significand magnitude % 2 = 1 → low magnitude < value ∧ value < high magnitude)

theorem low_high (magnitude : Nat) : low magnitude < high magnitude := by
  have unit : (0 : ℚ) < 2 ^ (power magnitude - 2) := by positivity
  rw [low, high]
  refine mul_lt_mul_of_pos_right ?_ unit
  have marginPositive : (0 : ℚ) ≤ margin magnitude := Nat.cast_nonneg _
  linarith

theorem low_positive {magnitude : Nat} (filled : magnitude ≠ 0) : 0 < low magnitude := by
  have someSignificand : (1 : ℚ) ≤ significand magnitude := by exact_mod_cast significand_positive filled
  have marginMost : (margin magnitude : ℚ) ≤ 2 := by exact_mod_cast (margin_bounds magnitude).2
  rw [low]
  exact mul_pos (by linarith) (by positivity)

theorem significand_succ (magnitude : Nat) :
    (significand (magnitude + 1) = significand magnitude + 1 ∧ power (magnitude + 1) = power magnitude ∧
      margin (magnitude + 1) ≤ 2) ∨
    (significand magnitude + 1 = 2 * leading ∧ significand (magnitude + 1) = leading ∧
      power (magnitude + 1) = power magnitude + 1 ∧ margin (magnitude + 1) = 1) := by
  have bounds := margin_bounds (magnitude + 1)
  by_cases carry : magnitude % leading + 1 = leading ∧ magnitude / leading ≠ 0
  · refine .inr ?_
    have next : significand (magnitude + 1) = leading := by
      rw [significand, leading] at *
      split <;> omega
    refine ⟨?_, next, ?_, ?_⟩
    · rw [significand, if_neg carry.2]
      omega
    · rw [power, power, leading] at *
      split_ifs <;> omega
    · rw [margin, next]
      simp only [decide_true, Bool.and_true, decide_eq_true_eq, ite_eq_left_iff]
      rw [leading] at *
      omega
  · refine .inl ⟨?_, ?_, bounds.2⟩
    · rw [significand, significand, leading] at *
      split_ifs <;> omega
    · rw [power, power, leading] at *
      split_ifs <;> omega

theorem high_low (magnitude : Nat) : high magnitude ≤ low (magnitude + 1) := by
  rw [high, low]
  rcases significand_succ magnitude with ⟨next, same, most⟩ | ⟨full, next, up, half⟩
  · have unit : (0 : ℚ) ≤ 2 ^ (power magnitude - 2) := by positivity
    have marginMost : (margin (magnitude + 1) : ℚ) ≤ 2 := by exact_mod_cast most
    rw [next, same]
    refine mul_le_mul_of_nonneg_right ?_ unit
    push_cast
    linarith
  · have doubled : (2 : ℚ) ^ (power magnitude + 1 - 2) = 2 * 2 ^ (power magnitude - 2) := by
      rw [show power magnitude + 1 - 2 = 1 + (power magnitude - 2) by ring, zpow_add₀ (by norm_num), zpow_one]
    have significands : (significand magnitude : ℚ) + 1 = 2 * leading := by exact_mod_cast full
    rw [next, up, half, doubled]
    refine le_of_eq ?_
    push_cast
    linear_combination (4 * 2 ^ (power magnitude - 2)) * significands

theorem high_below {magnitude larger : Nat} (less : magnitude < larger) : high magnitude ≤ low larger := by
  induction larger, less using Nat.le_induction with
  | base => exact high_low magnitude
  | succ larger _ below => exact below.trans ((low_high larger).le.trans (high_low larger))

-- The intervals of two magnitudes meet at an end at most, and of two neighbours only the one with an
-- even significand owns that end.
theorem nearest_apart {magnitude larger : Nat} (less : magnitude < larger) {value : ℚ}
    (near : Nearest magnitude value) : ¬Nearest larger value := by
  obtain ⟨_, most, inner⟩ := near
  rintro ⟨least, _, largerInner⟩
  by_cases next : larger = magnitude + 1
  · have ends := high_low magnitude
    rw [next] at least largerInner
    have odd : significand magnitude % 2 = 1 ∨ significand (magnitude + 1) % 2 = 1 := by
      rw [significand_even, significand_even]
      omega
    rcases odd with odd | odd
    · exact absurd (inner odd).2 (by linarith)
    · exact absurd (largerInner odd).1 (by linarith)
  · have between := high_below (show magnitude + 1 < larger by omega)
    have inside := low_high (magnitude + 1)
    have ends := high_low magnitude
    linarith

theorem nearest_unique {first second : Nat} {value : ℚ} (nearFirst : Nearest first value)
    (nearSecond : Nearest second value) : first = second := by
  rcases Nat.lt_trichotomy first second with less | same | more
  · exact absurd nearSecond (nearest_apart less nearFirst)
  · exact same
  · exact absurd nearFirst (nearest_apart more nearSecond)

end RecordRules.Binary64
