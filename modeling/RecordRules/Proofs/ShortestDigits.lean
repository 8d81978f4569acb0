import Mathlib.Tactic.FieldSimp
import RecordRules.Proofs.Neighbours
import RecordRules.Proofs.Numerals

set_option autoImplicit false

namespace RecordRules.Decimal

namespace Interval

def least (i : Interval) : ℚ := i.low / i.den

def middle (i : Interval) : ℚ := i.value / i.den

def most (i : Interval) : ℚ := i.high / i.den

def Holds (i : Interval) (value : ℚ) : Prop :=
  i.least ≤ value ∧ value ≤ i.most ∧ (i.closed = false → i.least < value ∧ value < i.most)

structure Proper (i : Interval) : Prop where
  den : 0 < i.den
  low : i.low < i.value
  high : i.value < i.high

variable {i : Interval}

theorem middle_between (proper : i.Proper) : i.least < i.middle ∧ i.middle < i.most := by
  have den : (0 : ℚ) < i.den := by exact_mod_cast proper.den
  have low : (i.low : ℚ) < i.value := by exact_mod_cast proper.low
  have high : (i.value : ℚ) < i.high := by exact_mod_cast proper.high
  exact ⟨div_lt_div_of_pos_right low den, div_lt_div_of_pos_right high den⟩

end Interval

theorem tens_positive (count : Nat) : 0 < tens count := Nat.pow_pos (by decide)

theorem tens_ratio (exponent : Int) : (10 : ℚ) ^ exponent = tens exponent.toNat / tens (-exponent).toNat := by
  rw [tens, tens]
  rcases Int.le_total 0 exponent with up | down
  · obtain ⟨count, rfl⟩ := Int.eq_ofNat_of_zero_le up
    simp
  · obtain ⟨count, rfl⟩ : ∃ count : Nat, exponent = -(count : Int) := ⟨(-exponent).toNat, by omega⟩
    simp

theorem grid_compare (num den coefficient : Nat) (exponent : Int) (someDen : 0 < den) :
    (num * tens (-exponent).toNat ≤ coefficient * (den * tens exponent.toNat) ↔
      (num : ℚ) / den ≤ coefficient * 10 ^ exponent) ∧
    (coefficient * (den * tens exponent.toNat) ≤ num * tens (-exponent).toNat ↔
      (coefficient : ℚ) * 10 ^ exponent ≤ num / den) := by
  have denPositive : (0 : ℚ) < den := by exact_mod_cast someDen
  have scalePositive : (0 : ℚ) < tens (-exponent).toNat := by exact_mod_cast tens_positive _
  rw [tens_ratio, ← mul_div_assoc, div_le_div_iff₀ denPositive scalePositive,
    div_le_div_iff₀ scalePositive denPositive]
  constructor
  · rw [← Nat.cast_le (α := ℚ)]
    push_cast
    rw [mul_assoc, mul_comm (tens exponent.toNat : ℚ)]
  · rw [← Nat.cast_le (α := ℚ)]
    push_cast
    rw [mul_assoc, mul_comm (tens exponent.toNat : ℚ)]

namespace Interval

def Reaches (i : Interval) (a b : ℚ) : Prop := if i.closed then a ≤ b else a < b

def ordered (i : Interval) (a b : Nat) : Bool := if i.closed then a ≤ b else a < b

theorem ordered_grid (i : Interval) (someDen : 0 < i.den) (num coefficient : Nat) (exponent : Int) :
    (i.ordered (num * tens (-exponent).toNat) (coefficient * (i.den * tens exponent.toNat)) = true ↔
        i.Reaches (num / i.den) (coefficient * 10 ^ exponent)) ∧
    (i.ordered (coefficient * (i.den * tens exponent.toNat)) (num * tens (-exponent).toNat) = true ↔
        i.Reaches (coefficient * 10 ^ exponent) (num / i.den)) := by
  obtain ⟨above, below⟩ := grid_compare num i.den coefficient exponent someDen
  rw [ordered, ordered, Reaches, Reaches]
  cases i.closed with
  | true =>
      simp only [if_true, decide_eq_true_eq]
      exact ⟨above, below⟩
  | false =>
      simp only [Bool.false_eq_true, if_false, decide_eq_true_eq]
      rw [← not_le, ← not_le, ← not_le, ← not_le]
      exact ⟨not_congr below, not_congr above⟩

variable {i : Interval}

theorem holds_of_low (proper : i.Proper) {value : ℚ} (reaches : i.Reaches i.least value)
    (under : value ≤ i.middle) : i.Holds value := by
  have underMost := lt_of_le_of_lt under (middle_between proper).2
  rw [Reaches] at reaches
  refine ⟨?_, underMost.le, fun opened => ?_⟩
  · split at reaches
    · exact reaches
    · exact reaches.le
  · rw [opened] at reaches
    exact ⟨reaches, underMost⟩

theorem holds_of_high (proper : i.Proper) {value : ℚ} (reaches : i.Reaches value i.most)
    (past : i.middle < value) : i.Holds value := by
  have pastLeast := (middle_between proper).1.trans past
  rw [Reaches] at reaches
  refine ⟨pastLeast.le, ?_, fun opened => ?_⟩
  · split at reaches
    · exact reaches
    · exact reaches.le
  · rw [opened] at reaches
    exact ⟨pastLeast, reaches⟩

theorem reaches_of_lt {a b : ℚ} (less : a < b) : i.Reaches a b := by
  rw [Reaches]
  split
  · exact less.le
  · exact less

end Interval

variable {i : Interval}

theorem on_grid_choice (i : Interval) (exponent : Int) {below : Nat} {lowIn highIn : Bool}
    (quotient : i.value * tens (-exponent).toNat / (i.den * tens exponent.toNat) = below)
    (low : i.ordered (i.low * tens (-exponent).toNat) (below * (i.den * tens exponent.toNat)) = lowIn)
    (high : i.ordered ((below + 1) * (i.den * tens exponent.toNat)) (i.high * tens (-exponent).toNat) = highIn) :
    onGrid? i exponent =
      if lowIn && highIn then
        some (if (2 * below + 1) * (i.den * tens exponent.toNat) ≤ 2 * (i.value * tens (-exponent).toNat) then
          below + 1 else below)
      else if lowIn then some below
      else if highIn then some (below + 1)
      else none := by
  subst quotient low high
  rfl

theorem on_grid_cases (proper : i.Proper) (exponent : Int) :
    ∃ below : Nat, below * 10 ^ exponent ≤ i.middle ∧ i.middle < (below + 1 : Nat) * 10 ^ exponent ∧
      (∀ coefficient, onGrid? i exponent = some coefficient → i.Holds (coefficient * 10 ^ exponent)) ∧
      (onGrid? i exponent = none → ¬i.Reaches i.least (below * 10 ^ exponent) ∧
        ¬i.Reaches ((below + 1 : Nat) * 10 ^ exponent) i.most) := by
  have stepPositive : 0 < i.den * tens exponent.toNat := Nat.mul_pos proper.den (tens_positive _)
  obtain ⟨below, quotient⟩ : ∃ below, i.value * tens (-exponent).toNat / (i.den * tens exponent.toNat) = below :=
    ⟨_, rfl⟩
  have under : (below : ℚ) * 10 ^ exponent ≤ i.middle := by
    rw [Interval.middle, ← (grid_compare i.value i.den below exponent proper.den).2, ← quotient]
    exact Nat.div_mul_le_self _ _
  have past : i.middle < (below + 1 : Nat) * 10 ^ exponent := by
    rw [← not_le, Interval.middle, ← (grid_compare i.value i.den _ exponent proper.den).2, Nat.not_le]
    exact Nat.lt_mul_of_div_lt (quotient ▸ Nat.lt_succ_self below) stepPositive
  have lowHolds : _ ↔ i.Reaches i.least _ := (i.ordered_grid proper.den i.low below exponent).1
  have highHolds : _ ↔ i.Reaches _ i.most := (i.ordered_grid proper.den i.high (below + 1) exponent).2
  refine ⟨below, under, past, ?_⟩
  rw [on_grid_choice i exponent quotient rfl rfl, ← lowHolds, ← highHolds]
  split_ifs with both upper low high
  · obtain ⟨low, high⟩ := (Bool.and_eq_true _ _).mp both
    exact ⟨fun _ same => Option.some.inj same ▸ Interval.holds_of_high proper (highHolds.mp high) past, nofun⟩
  · obtain ⟨low, high⟩ := (Bool.and_eq_true _ _).mp both
    exact ⟨fun _ same => Option.some.inj same ▸ Interval.holds_of_low proper (lowHolds.mp low) under, nofun⟩
  · exact ⟨fun _ same => Option.some.inj same ▸ Interval.holds_of_low proper (lowHolds.mp low) under, nofun⟩
  · exact ⟨fun _ same => Option.some.inj same ▸ Interval.holds_of_high proper (highHolds.mp high) past, nofun⟩
  · exact ⟨nofun, fun _ => ⟨low, high⟩⟩

theorem on_grid_fine (proper : i.Proper) {exponent : Int} (fine : (10 : ℚ) ^ exponent < i.most - i.least) :
    ∃ coefficient, onGrid? i exponent = some coefficient := by
  obtain ⟨below, under, past, _, outside⟩ := on_grid_cases proper exponent
  cases offered : onGrid? i exponent with
  | some coefficient => exact ⟨coefficient, rfl⟩
  | none =>
      exfalso
      obtain ⟨notLow, notHigh⟩ := outside offered
      have low := not_lt.mp (mt Interval.reaches_of_lt notLow)
      have high := not_lt.mp (mt Interval.reaches_of_lt notHigh)
      push_cast at high
      linarith

theorem on_grid_exact (proper : i.Proper) {exponent : Int} {whole : Nat}
    (same : i.middle = whole * 10 ^ exponent) :
    ∃ coefficient, onGrid? i exponent = some coefficient := by
  obtain ⟨below, under, past, _, outside⟩ := on_grid_cases proper exponent
  have unit : (0 : ℚ) < 10 ^ exponent := by positivity
  cases offered : onGrid? i exponent with
  | some coefficient => exact ⟨coefficient, rfl⟩
  | none =>
      exfalso
      rw [same] at under past
      have atLeast : (below : ℚ) ≤ whole := le_of_mul_le_mul_right under unit
      have atMost : (whole : ℚ) < (below + 1 : Nat) := lt_of_mul_lt_mul_right past unit.le
      have found : below = whole := by
        have least : below ≤ whole := by exact_mod_cast atLeast
        have most : whole < below + 1 := by exact_mod_cast atMost
        omega
      rw [found, ← same] at outside
      exact (outside offered).1 (Interval.reaches_of_lt (Interval.middle_between proper).1)

theorem first_on_grid (i : Interval) {tries : Nat} {exponent last : Int} {hit : Nat}
    (within : exponent - tries < last) (before : last ≤ exponent) (offer : onGrid? i last = some hit) :
    onGrid? i (firstOnGrid i tries exponent).2 = some (firstOnGrid i tries exponent).1 ∧
      last ≤ (firstOnGrid i tries exponent).2 := by
  induction tries generalizing exponent with
  | zero => omega
  | succ tries ih =>
      rw [firstOnGrid]
      cases offered : onGrid? i exponent with
      | some coefficient => exact ⟨offered, before⟩
      | none =>
          have later : last ≠ exponent := by
            rintro rfl
            rw [offered] at offer
            cases offer
          exact ih (by omega) (by omega)

theorem drop_zeros (tries coefficient : Nat) (exponent : Int) :
    ((dropZeros tries coefficient exponent).1 : ℚ) * 10 ^ (dropZeros tries coefficient exponent).2 =
        coefficient * 10 ^ exponent ∧
      exponent ≤ (dropZeros tries coefficient exponent).2 := by
  fun_induction dropZeros tries coefficient exponent with
  | case1 coefficient exponent => exact ⟨rfl, le_rfl⟩
  | case2 tries coefficient exponent zeros ih =>
      simp only [Bool.and_eq_true, decide_eq_true_eq] at zeros
      have tenfold : (coefficient : ℚ) = (coefficient / 10 : Nat) * 10 := by
        exact_mod_cast (Nat.div_mul_cancel (Nat.dvd_of_mod_eq_zero zeros.2)).symm
      refine ⟨?_, by omega⟩
      rw [ih.1, tenfold, zpow_add₀ (by norm_num), zpow_one]
      ring
  | case3 tries coefficient exponent => exact ⟨rfl, le_rfl⟩

theorem digits_bounds (value : Nat) : value < 10 ^ (digits value).length ∧
    (value ≠ 0 → 10 ^ ((digits value).length - 1) ≤ value) := by
  have someDigits : 0 < (digits value).length := Nat.length_toDigits_pos
  have fits (k : Nat) (someK : 0 < k) : (digits value).length ≤ k ↔ value < 10 ^ k :=
    Nat.length_toDigits_le_iff (by decide) someK
  refine ⟨(fits _ someDigits).mp le_rfl, fun filled => ?_⟩
  by_cases single : (digits value).length = 1
  · rw [single]
    exact Nat.pos_of_ne_zero filled
  · rw [← Nat.not_lt, ← fits _ (by omega)]
    omega

theorem places_least {num den : Nat} (someNum : 0 < num) (someDen : 0 < den) :
    (10 : ℚ) ^ (places num den - 1) ≤ num / den := by
  have denPositive : (0 : ℚ) < den := by exact_mod_cast someDen
  have numPositive : (0 : ℚ) < num := by exact_mod_cast someNum
  rw [places]
  split
  case isTrue large =>
    have someDigits : 0 < (digits (num / den)).length := Nat.length_toDigits_pos
    have least := (digits_bounds (num / den)).2 (Nat.div_pos large someDen).ne'
    have multiple : 10 ^ ((digits (num / den)).length - 1) * den ≤ num :=
      (Nat.le_div_iff_mul_le someDen).mp least
    rw [show ((digits (num / den)).length : Int) - 1 = ((digits (num / den)).length - 1 : Nat) by omega,
      zpow_natCast, le_div_iff₀ denPositive]
    exact_mod_cast multiple
  case isFalse small =>
    obtain ⟨floor, quotient⟩ : ∃ floor, (den + num - 1) / num - 1 = floor := ⟨_, rfl⟩
    have most := (digits_bounds floor).1
    have multiple : den ≤ 10 ^ (digits floor).length * num := by
      have above : den + num - 1 < (floor + 2) * num := (Nat.div_lt_iff_lt_mul someNum).mp (by omega)
      have splitOff : (floor + 2) * num = (floor + 1) * num + num := by ring
      have least : den ≤ (floor + 1) * num := by omega
      exact least.trans (Nat.mul_le_mul_right num most)
    rw [quotient, show (1 : Int) - (digits floor).length - 1 = -((digits floor).length : Nat) by omega, zpow_neg,
      zpow_natCast, inv_eq_one_div, div_le_div_iff₀ (by positivity) denPositive, one_mul, mul_comm]
    exact_mod_cast multiple

theorem places_whole {i : Interval} (someDen : 0 < i.den) {size : Nat} (filled : size ≠ 0)
    (whole : i.middle = size) : places i.value i.den = (digits size).length := by
  have multiple : i.value = size * i.den := by
    have denFilled : (i.den : ℚ) ≠ 0 := by exact_mod_cast someDen.ne'
    rw [Interval.middle, div_eq_iff denFilled] at whole
    exact_mod_cast whole
  rw [places, multiple, if_pos (Nat.le_mul_of_pos_left _ (Nat.pos_of_ne_zero filled)),
    Nat.mul_div_cancel _ someDen]

open Binary64

theorem scaled_quarter (exponent : Int) : 0 < (scaled 1 4 (-exponent)).1 ∧ 0 < (scaled 1 4 (-exponent)).2 ∧
    ((scaled 1 4 (-exponent)).1 : ℚ) / (scaled 1 4 (-exponent)).2 = 2 ^ (exponent - 2) := by
  have quarter : (2 : ℚ) ^ (exponent - 2) = 2 ^ exponent / 4 := by
    rw [unit_quarter exponent]
    ring
  rw [scaled, quarter]
  split
  case isTrue small =>
    obtain ⟨count, rfl⟩ : ∃ count : Nat, exponent = -(count : Int) := ⟨(-exponent).toNat, by omega⟩
    rw [Nat.shiftLeft_eq, show (- -(count : Int)).toNat = count by omega, zpow_neg, zpow_natCast]
    refine ⟨Nat.one_pos, Nat.mul_pos (Nat.succ_pos 3) (Nat.two_pow_pos _), ?_⟩
    push_cast
    field_simp
  case isFalse large =>
    obtain ⟨count, rfl⟩ : ∃ count : Nat, exponent = (count : Int) := ⟨exponent.toNat, by omega⟩
    rw [Nat.shiftLeft_eq, show (- -(count : Int)).toNat = count by omega, zpow_natCast]
    refine ⟨Nat.mul_pos Nat.one_pos (Nat.two_pow_pos _), Nat.succ_pos 3, ?_⟩
    push_cast
    ring

def intervalOf (magnitude : Nat) : Interval :=
  interval (significand magnitude) (power magnitude) (leading ≤ magnitude)

variable {magnitude : Nat}

theorem interval_proper (filled : magnitude ≠ 0) : (intervalOf magnitude).Proper := by
  have someSignificand := significand_positive filled
  obtain ⟨someNum, someDen, _⟩ := scaled_quarter (power magnitude)
  have margins := margin_bounds magnitude
  exact {
    den := someDen
    low := Nat.mul_lt_mul_of_pos_right (show 4 * significand magnitude - margin magnitude < _ by omega) someNum
    high := Nat.mul_lt_mul_of_pos_right (Nat.lt_add_of_pos_right Nat.two_pos) someNum }

theorem interval_ends (filled : magnitude ≠ 0) : (intervalOf magnitude).least = low magnitude ∧
    (intervalOf magnitude).middle = significand magnitude * 2 ^ power magnitude ∧
    (intervalOf magnitude).most = high magnitude := by
  have someSignificand := significand_positive filled
  have margins := margin_bounds magnitude
  have quarter := (scaled_quarter (power magnitude)).2.2
  have bottom : (intervalOf magnitude).low =
      (4 * significand magnitude - margin magnitude) * (scaled 1 4 (-power magnitude)).1 := rfl
  refine ⟨?_, ?_, ?_⟩
  · rw [Interval.least, bottom, low, ← quarter]
    push_cast [Nat.cast_sub (show margin magnitude ≤ 4 * significand magnitude by omega)]
    exact mul_div_assoc _ _ _
  · rw [Interval.middle, unit_quarter, ← quarter, intervalOf, interval]
    push_cast
    ring
  · rw [Interval.most, high, ← quarter, intervalOf, interval]
    push_cast
    ring

theorem interval_holds (filled : magnitude ≠ 0) {value : ℚ} (inside : (intervalOf magnitude).Holds value) :
    Nearest magnitude value := by
  obtain ⟨least, _, most⟩ := interval_ends filled
  rw [Interval.Holds, least, most] at inside
  obtain ⟨above, below, opened⟩ := inside
  refine ⟨above, below, fun odd => opened ?_⟩
  show decide (significand magnitude % 2 = 0) = false
  rw [decide_eq_false_iff_not, odd]
  decide

theorem seventeen_fine (filled : magnitude ≠ 0) :
    (10 : ℚ) ^ (places (intervalOf magnitude).value (intervalOf magnitude).den - 17) <
      (intervalOf magnitude).most - (intervalOf magnitude).least := by
  have proper := interval_proper filled
  obtain ⟨least, middle, most⟩ := interval_ends filled
  have unit : (0 : ℚ) < 2 ^ (power magnitude - 2) := by positivity
  have first := places_least (Nat.lt_of_le_of_lt (Nat.zero_le _) proper.low) proper.den
  rw [← Interval.middle, middle] at first
  have shift : (10 : ℚ) ^ (places (intervalOf magnitude).value (intervalOf magnitude).den - 1) =
      10 ^ 16 * 10 ^ (places (intervalOf magnitude).value (intervalOf magnitude).den - 17) := by
    rw [← zpow_natCast, ← zpow_add₀ (by norm_num)]
    congr 1
    push_cast
    ring
  have few : (4 : ℚ) * significand magnitude < 10 ^ 16 * (margin magnitude + 2) := by
    exact_mod_cast significand_margin magnitude
  rw [least, most, high, low]
  rw [shift, unit_quarter] at first
  have scaledFew := mul_lt_mul_of_pos_right few unit
  linarith

theorem shortest_found (x : Binary64) (filled : x.magnitude ≠ 0) :
    (shortest x).negative = x.isNegative ∧ Nearest x.magnitude (shortest x).size ∧
      ∀ last hit, onGrid? (intervalOf x.magnitude) last = some hit →
        places (intervalOf x.magnitude).value (intervalOf x.magnitude).den - 17 ≤ last →
        last < places (intervalOf x.magnitude).value (intervalOf x.magnitude).den →
        last ≤ (shortest x).exponent := by
  have proper := interval_proper filled
  obtain ⟨start, first⟩ : ∃ start,
      places (intervalOf x.magnitude).value (intervalOf x.magnitude).den - 1 = start := ⟨_, rfl⟩
  have found : shortest x =
      ⟨x.isNegative, (dropZeros 17 (firstOnGrid (intervalOf x.magnitude) 17 start).1
        (firstOnGrid (intervalOf x.magnitude) 17 start).2).1,
      (dropZeros 17 (firstOnGrid (intervalOf x.magnitude) 17 start).1
        (firstOnGrid (intervalOf x.magnitude) 17 start).2).2⟩ := by
    rw [shortest, unpack_magnitude, ← first]
    simp only [(significand_positive filled).ne', if_false]
    rfl
  have search (last : Int) (hit : Nat) (offer : onGrid? (intervalOf x.magnitude) last = some hit)
      (within : start - (17 : Nat) < last) (before : last ≤ start) :=
    first_on_grid (intervalOf x.magnitude) within before offer
  obtain ⟨value, coarser⟩ := drop_zeros 17 (firstOnGrid (intervalOf x.magnitude) 17 start).1
    (firstOnGrid (intervalOf x.magnitude) 17 start).2
  rw [found]
  refine ⟨rfl, ?_, ?_⟩
  · obtain ⟨hit, offer⟩ := on_grid_fine proper (seventeen_fine filled)
    obtain ⟨_, _, _, inside, _⟩ := on_grid_cases proper (firstOnGrid (intervalOf x.magnitude) 17 start).2
    have offered := (search _ hit offer (by omega) (by omega)).1
    rw [size, value]
    exact interval_holds filled (inside _ offered)
  · intro last hit offer least before
    exact (search last hit offer (by omega) (by omega)).2.trans coarser

end RecordRules.Decimal
