import RecordRules.Proofs.ComparisonLaws

set_option autoImplicit false

namespace RecordRules

variable {n : Nat}

namespace Binary64

theorem key_less {a b : Int} (less : (ofInt a).key < (ofInt b).key) : a < b := by
  by_contra notLess
  exact absurd (key_mono (Int.not_lt.mp notLess)) (Int.not_le.mpr less)

theorem of_int_key {a b : Int} (same : (ofInt a).key = (ofInt b).key) : ofInt a = ofInt b := by
  have positive (value : Int) (filled : value ≠ 0) : 0 < nearestMagnitude value.natAbs 1 :=
    nearest_lt (by decide) (Int.natAbs_pos.mpr filled)
  by_cases equal : a = b
  · rw [equal]
  have aPositive := positive a
  have bPositive := positive b
  rw [key_of_int, key_of_int] at same
  have signs : (a < 0) = (b < 0) := by
    split_ifs at same <;> simp only [eq_iff_iff] <;> omega
  have sizes : nearestMagnitude a.natAbs 1 = nearestMagnitude b.natAbs 1 := by
    split_ifs at same <;> omega
  rw [ofInt, ofInt, ofRatio, ofRatio, sizes]
  simp only [signs]

end Binary64

namespace Number

-- Two integers that are one number after rounding.
def Merged (x z : Number) : Prop :=
  ∃ i k, x = .integer i ∧ z = .integer k ∧ i ≠ k ∧ Binary64.ofInt i = Binary64.ofInt k

-- Of two numbers, one is an integer that is merged with a third number, and the other is no integer.
def Confused (x y z : Number) : Prop :=
  ∃ real, x = .float real ∧ Merged y z ∨ y = .float real ∧ Merged x z

theorem not_merged_iff (i k : Int) : ¬Merged (.integer i) (.integer k) ↔
    ((Binary64.ofInt i).key = (Binary64.ofInt k).key → i = k) := by
  constructor
  · intro notMerged same
    by_contra apart
    exact notMerged ⟨i, k, rfl, rfl, apart, Binary64.of_int_key same⟩
  · rintro together ⟨_, _, ⟨⟩, ⟨⟩, apart, same⟩
    exact apart (together (congrArg Binary64.key same))

theorem merged_large {i k : Int} (merged : Merged (.integer i) (.integer k)) :
    2 ^ 53 ≤ i.natAbs ∧ 2 ^ 53 ≤ k.natAbs := by
  obtain ⟨_, _, ⟨⟩, ⟨⟩, apart, same⟩ := merged
  by_contra notLarge
  have small : i.natAbs < 2 ^ 53 ∨ k.natAbs < 2 ^ 53 := by omega
  rcases lt_or_gt_of_ne apart with less | more
  · exact absurd (congrArg Binary64.key same) (Binary64.key_apart less small).ne
  · exact absurd (congrArg Binary64.key same).symm (Binary64.key_apart more small.symm).ne

variable {x y z : Number}

theorem not_merged_left (real : Binary64) : ¬Merged (.float real) z := by
  rintro ⟨i, k, same, _⟩
  cases same

theorem not_merged_right (real : Binary64) : ¬Merged x (.float real) := by
  rintro ⟨i, k, _, same, _⟩
  cases same

theorem compare_left {real : Binary64} (number : (float real).isNaN = false) (yNumber : y.isNaN = false) :
    (float real).compare? y = some (compare real.key y.toBinary64.key) := by
  have rounded : real.compare? y.toBinary64 = some (compare real.key y.toBinary64.key) := by
    rw [Binary64.compare?, nan_of_binary, yNumber, show real.isNaN = false from number]
    rfl
  cases y <;> exact rounded

theorem compare_right {real : Binary64} (xNumber : x.isNaN = false) (number : (float real).isNaN = false) :
    x.compare? (float real) = some (compare x.toBinary64.key real.key) := by
  rw [← compare_numbers_swap, compare_left number xNumber, Option.map_some, Int.compare_swap]

theorem less_rounded (xNumber : x.isNaN = false) (yNumber : y.isNaN = false)
    (less : x.compare? y = some .lt) : x.toBinary64.key ≤ y.toBinary64.key := by
  cases x with
  | float a =>
      rw [compare_left xNumber yNumber, Option.some.injEq, Int.compare_eq_lt] at less
      exact less.le
  | integer i =>
      cases y with
      | float b =>
          rw [compare_right xNumber yNumber, Option.some.injEq, Int.compare_eq_lt] at less
          exact less.le
      | integer k => exact Binary64.key_mono (Int.compare_eq_lt.mp (Option.some.inj less)).le

theorem equal_rounded (xNumber : x.isNaN = false) (yNumber : y.isNaN = false)
    (equal : x.compare? y = some .eq) : x.toBinary64.key = y.toBinary64.key := by
  cases x with
  | float a =>
      rwa [compare_left xNumber yNumber, Option.some.injEq, Std.compare_eq_iff_eq] at equal
  | integer i =>
      cases y with
      | float b => rwa [compare_right xNumber yNumber, Option.some.injEq, Std.compare_eq_iff_eq] at equal
      | integer k =>
          rw [Std.compare_eq_iff_eq.mp (Option.some.inj equal)]

theorem less_trans (xNumber : x.isNaN = false) (yNumber : y.isNaN = false) (zNumber : z.isNaN = false)
    (first : x.compare? y = some .lt) (second : y.compare? z = some .lt) : x.compare? z = some .lt := by
  have firstKeys := less_rounded xNumber yNumber first
  have secondKeys := less_rounded yNumber zNumber second
  cases x with
  | float a =>
      rw [compare_left xNumber yNumber, Option.some.injEq, Int.compare_eq_lt] at first
      rw [compare_left xNumber zNumber, Int.compare_eq_lt.mpr (lt_of_lt_of_le first secondKeys)]
  | integer i =>
      cases z with
      | float c =>
          rw [compare_right yNumber zNumber, Option.some.injEq, Int.compare_eq_lt] at second
          rw [compare_right xNumber zNumber, Int.compare_eq_lt.mpr (lt_of_le_of_lt firstKeys second)]
      | integer k =>
          have less : i < k := by
            cases y with
            | integer j =>
                exact Int.lt_trans (Int.compare_eq_lt.mp (Option.some.inj first))
                  (Int.compare_eq_lt.mp (Option.some.inj second))
            | float b =>
                rw [compare_right xNumber yNumber, Option.some.injEq, Int.compare_eq_lt] at first
                exact Binary64.key_less (lt_of_lt_of_le first secondKeys)
          exact congrArg some (Int.compare_eq_lt.mpr less)

theorem equal_trans_iff (xNumber : x.isNaN = false) (yNumber : y.isNaN = false) (zNumber : z.isNaN = false)
    (first : x.compare? y = some .eq) (second : y.compare? z = some .eq) :
    x.compare? z = some .eq ↔ ¬Merged x z := by
  have keys := (equal_rounded xNumber yNumber first).trans (equal_rounded yNumber zNumber second)
  cases x with
  | float a =>
      rw [compare_left xNumber zNumber, show a.key = z.toBinary64.key from keys, Std.compare_eq_iff_eq.mpr rfl]
      exact iff_of_true rfl (not_merged_left a)
  | integer i =>
      cases z with
      | float c =>
          rw [compare_right xNumber zNumber, show (integer i).toBinary64.key = c.key from keys,
            Std.compare_eq_iff_eq.mpr rfl]
          exact iff_of_true rfl (not_merged_right c)
      | integer k =>
          rw [not_merged_iff, Number.compare?, Option.some.injEq, Std.compare_eq_iff_eq]
          exact ⟨fun same _ => same, fun together => together keys⟩

theorem rounded_integers (j k : Int) :
    compare (Binary64.ofInt j).key (Binary64.ofInt k).key = compare j k ↔ ¬Merged (.integer j) (.integer k) := by
  rw [not_merged_iff]
  rcases Int.lt_trichotomy j k with less | rfl | more
  · have keys := Binary64.key_mono less.le
    rw [Int.compare_eq_lt.mpr less, Int.compare_eq_lt]
    omega
  · rw [Std.compare_eq_iff_eq.mpr rfl, Std.compare_eq_iff_eq.mpr rfl]
    exact iff_of_true rfl fun _ => rfl
  · have keys := Binary64.key_mono more.le
    rw [Int.compare_eq_gt.mpr more, Int.compare_eq_gt]
    omega

theorem equal_congr_iff (xNumber : x.isNaN = false) (yNumber : y.isNaN = false) (zNumber : z.isNaN = false)
    (equal : x.compare? y = some .eq) : x.compare? z = y.compare? z ↔ ¬Confused x y z := by
  have keys := equal_rounded xNumber yNumber equal
  cases z with
  | float c =>
      rw [compare_right xNumber zNumber, compare_right yNumber zNumber, keys]
      refine iff_of_true rfl ?_
      rintro ⟨real, ⟨_, merged⟩ | ⟨_, merged⟩⟩ <;> exact not_merged_right c merged
  | integer k =>
      cases x with
      | float a =>
          rw [compare_left xNumber zNumber, show a.key = y.toBinary64.key from keys]
          cases y with
          | float b =>
              rw [compare_left yNumber zNumber]
              refine iff_of_true rfl ?_
              rintro ⟨real, ⟨_, merged⟩ | ⟨_, merged⟩⟩ <;> exact not_merged_left _ merged
          | integer j =>
              rw [Number.compare?, Option.some.injEq]
              refine (rounded_integers j k).trans (not_congr ⟨fun merged => ⟨a, .inl ⟨rfl, merged⟩⟩, ?_⟩)
              rintro ⟨real, ⟨_, merged⟩ | ⟨same, _⟩⟩
              · exact merged
              · cases same
      | integer i =>
          cases y with
          | float b =>
              rw [compare_left yNumber zNumber, ← show (Binary64.ofInt i).key = b.key from keys, eq_comm,
                Number.compare?, Option.some.injEq]
              refine (rounded_integers i k).trans (not_congr ⟨fun merged => ⟨b, .inr ⟨rfl, merged⟩⟩, ?_⟩)
              rintro ⟨real, ⟨same, _⟩ | ⟨_, merged⟩⟩
              · cases same
              · exact merged
          | integer j =>
              rw [Std.compare_eq_iff_eq.mp (Option.some.inj equal)]
              refine iff_of_true rfl ?_
              rintro ⟨real, ⟨same, _⟩ | ⟨same, _⟩⟩ <;> cases same

end Number

theorem Comparison.verdicts_same (first second : Option Ordering) :
    (∀ op : Comparison, op.verdict first = op.verdict second) ↔ first = second := by
  constructor
  · intro same
    have less := same .lt
    have equal := same .eq
    have more := same .gt
    rcases first with _ | _ | _ | _ <;> rcases second with _ | _ | _ | _ <;>
      simp_all [Comparison.verdict, Comparison.holds]
  · rintro rfl op
    rfl

namespace Value

open Number

variable {a b c : Value n} {x y z : Number}

theorem compare_ok_iff (aNumber : a.number? = some x) (bNumber : b.number? = some y) :
    (compare .eq a b = .ok true ↔ x.compare? y = some .eq) ∧
      (compare .lt a b = .ok true ↔ x.compare? y = some .lt) := by
  rw [ordered_compare (.numbers aNumber bNumber), ordered_compare (.numbers aNumber bNumber)]
  rcases x.compare? y with _ | _ | _ | _ <;> simp [Comparison.verdict, Comparison.holds]

theorem compare_same_iff (aNumber : a.number? = some x) (bNumber : b.number? = some y)
    (cNumber : c.number? = some z) :
    (∀ op, compare op a c = compare op b c ∧ compare op c a = compare op c b) ↔
      x.compare? z = y.compare? z := by
  have answers (op : Comparison) := And.intro
    (ordered_compare (.numbers aNumber cNumber) op) (ordered_compare (.numbers bNumber cNumber) op)
  have turned (op : Comparison) := And.intro
    (ordered_compare (.numbers cNumber aNumber) op) (ordered_compare (.numbers cNumber bNumber) op)
  simp only [answers, turned, Except.ok.injEq]
  rw [forall_and, Comparison.verdicts_same, Comparison.verdicts_same, ← compare_numbers_swap x z,
    ← compare_numbers_swap y z]
  exact ⟨And.left, fun same => ⟨same, congrArg _ same⟩⟩

-- Less is transitive. Equality is, except from an integer to another one that is rounded to the same double, and
-- equal values agree on every third one, except where one rounds it together with the other.
theorem numeric_order (a b c : Value n) (x y z : Number) (aNumber : a.number? = some x)
    (bNumber : b.number? = some y) (cNumber : c.number? = some z) (aReal : a.isNaN = false)
    (bReal : b.isNaN = false) (cReal : c.isNaN = false) :
    (compare .eq a b = .ok true → compare .eq b c = .ok true →
      (compare .eq a c = .ok true ↔ ¬Merged x z)) ∧
    (compare .lt a b = .ok true → compare .lt b c = .ok true → compare .lt a c = .ok true) ∧
    (compare .eq a b = .ok true →
      ((∀ op, compare op a c = compare op b c ∧ compare op c a = compare op c b) ↔ ¬Confused x y z)) ∧
    ∀ i k, Merged (.integer i) (.integer k) → 2 ^ 53 ≤ i.natAbs ∧ 2 ^ 53 ≤ k.natAbs := by
  have xNumber := (number_nan a x aNumber).trans aReal
  have yNumber := (number_nan b y bNumber).trans bReal
  have zNumber := (number_nan c z cNumber).trans cReal
  obtain ⟨equalAb, lessAb⟩ := compare_ok_iff aNumber bNumber
  obtain ⟨equalBc, lessBc⟩ := compare_ok_iff bNumber cNumber
  obtain ⟨equalAc, lessAc⟩ := compare_ok_iff aNumber cNumber
  rw [equalAb, lessAb, equalBc, lessBc, equalAc, lessAc, compare_same_iff aNumber bNumber cNumber]
  exact ⟨equal_trans_iff xNumber yNumber zNumber, less_trans xNumber yNumber zNumber,
    equal_congr_iff xNumber yNumber zNumber, fun i k => merged_large⟩

theorem bridged_integers :
    let bridge : Value 0 := .float ⟨0x4340000000000000⟩
    let below : Value 0 := .uint 0x20000000000000
    let above : Value 0 := .uint 0x20000000000001
    compare .eq below bridge = .ok true ∧ compare .eq bridge above = .ok true ∧
      compare .eq below above = .ok false ∧ compare .lt below above = .ok true ∧
      compare .lt bridge above = .ok false := by
  refine ⟨?_, ?_, ?_, ?_, ?_⟩ <;> rfl

theorem chain_of_kinds : compare .eq (.int 7 : Value 0) (.uint 7) = .ok true ∧
    (∀ op, compare op (.float ⟨0x401C000000000000⟩ : Value 0) (.uint 9) =
      compare op (.int 7 : Value 0) (.uint 9)) := by
  obtain ⟨equal, _, _, _⟩ := numeric_order (.int 7 : Value 0) (.float ⟨0x401C000000000000⟩) (.uint 7) _ _ _
    rfl rfl rfl rfl rfl rfl
  obtain ⟨_, _, same, large⟩ := numeric_order (.float ⟨0x401C000000000000⟩ : Value 0) (.int 7) (.uint 9) _ _ _
    rfl rfl rfl rfl rfl rfl
  refine ⟨(equal rfl rfl).mpr fun merged => ?_, fun op => ((same rfl).mpr ?_ op).1⟩
  · exact absurd (large _ _ merged).1 (by decide)
  · rintro ⟨real, ⟨_, merged⟩ | ⟨other, _⟩⟩
    · exact absurd (large _ _ merged).1 (by decide)
    · cases other

end Value

end RecordRules
