import RecordRules.Check.Literal
import RecordRules.Constraint.Verdict
import RecordRules.Proofs.NumberTexts
import RecordRules.Proofs.NumericOrder

set_option autoImplicit false

namespace RecordRules

variable {n : Nat}

namespace Value

def isNegativeZero : Value n → Bool
  | float value => value.isZero && value.isNegative
  | _ => false

-- Two values of one kind with texts, or two integers. Of two zeros that are doubles, the sign is the same.
inductive OneKind : Value n → Value n → Prop where
  | bools (a b : Bool) : OneKind (.bool a) (.bool b)
  | integers {left right : Value n} {i k : Int} (leftNumber : left.number? = some (.integer i))
      (rightNumber : right.number? = some (.integer k)) : OneKind left right
  | floats {a b : Binary64} (aNumber : a.isNaN = false) (bNumber : b.isNaN = false)
      (zeros : a.isZero = true → b.isZero = true → a = b) : OneKind (.float a) (.float b)
  | texts (a b : String) : OneKind (.str a) (.str b)
  | lengths (a b : Nat) : OneKind (.seq a) (.seq b)

-- An integer of a size at which it may be rounded is written as the double beside it.
def Unrounded (left right : Value n) : Prop :=
  ∀ i real, left.number? = some (.integer i) ∧ right = .float real ∨
    left = .float real ∧ right.number? = some (.integer i) → 2 ^ 53 < i.natAbs → real.text = toString i

variable {left right : Value n}

theorem form_integer {value : Value n} {i : Int} (number : value.number? = some (.integer i)) :
    value.form? = some (toString i) := by
  cases value <;> cases number <;> rfl

theorem one_kind_iff (kinds : OneKind left right) :
    compare .eq left right = .ok true ↔ left.form? = right.form? := by
  cases kinds with
  | bools a b =>
      have verdict : compare .eq (.bool a : Value n) (.bool b) = .ok (a == b) := by
        cases a <;> cases b <;> rfl
      rw [verdict, form?, form?]
      cases a <;> cases b <;> decide
  | @integers _ _ i k leftNumber rightNumber =>
      rw [(compare_ok_iff leftNumber rightNumber).1, form_integer leftNumber, form_integer rightNumber,
        Option.some.injEq, Decimal.int_text_iff, Number.compare?, Option.some.injEq, Std.compare_eq_iff_eq]
  | @floats a b aNumber bNumber zeros =>
      rw [(compare_ok_iff rfl rfl).1, @Number.compare_left (.float b) a aNumber bNumber, Option.some.injEq,
        Std.compare_eq_iff_eq, form?, form?, Option.some.injEq]
      constructor
      · intro keys
        exact congrArg Binary64.text (Binary64.word_of_key keys zeros)
      · intro texts
        rw [Binary64.text_injective aNumber bNumber texts]
        rfl
  | texts a b =>
      rw [compare, form?, form?, Except.ok.injEq, Option.some.injEq, Comparison.holds, beq_iff_eq,
        Std.compare_eq_iff_eq]
  | lengths a b =>
      rw [compare, form?, form?, Except.ok.injEq, Option.some.injEq, Comparison.holds, beq_iff_eq,
        Std.compare_eq_iff_eq]
      exact Int.ofNat_inj.symm.trans (Decimal.int_text_iff a b).symm

theorem negative_zero_form {value : Value n} (negative : value.isNegativeZero = true) :
    value.form? = some "-0" := by
  cases value with
  | float word =>
      obtain ⟨zero, sign⟩ := (Bool.and_eq_true _ _).mp negative
      have same : word = ⟨0x8000000000000000⟩ :=
        Binary64.word_of_parts sign (of_decide_eq_true zero)
      rw [same]
      rfl
  | _ => cases negative

theorem zeros_same {a b : Binary64}
    (signs : (.float a : Value n).isNegativeZero = (.float b : Value n).isNegativeZero)
    (aZero : a.isZero = true) (bZero : b.isZero = true) : a = b := by
  refine Binary64.word_of_parts ?_ ((of_decide_eq_true aZero).trans (of_decide_eq_true bZero).symm)
  rwa [isNegativeZero, isNegativeZero, aZero, bZero, Bool.true_and, Bool.true_and] at signs

theorem integer_beside_float {i : Int} {real : Binary64} (keys : (Binary64.ofInt i).key = real.key)
    (small : i.natAbs ≤ 2 ^ 53) (positive : (.float real : Value n).isNegativeZero = false) :
    real.text = toString i := by
  have same : Binary64.ofInt i = real := by
    refine Binary64.word_of_key keys fun intZero realZero => ?_
    have size : Binary64.nearestMagnitude i.natAbs 1 = 0 :=
      (Binary64.int_magnitude i).1.symm.trans (of_decide_eq_true intZero)
    have none : i = 0 := by
      by_contra filled
      have more := Binary64.nearest_lt (show 0 < 2 ^ 53 by decide) (Int.natAbs_pos.mpr filled)
      omega
    refine Binary64.word_of_parts ?_ ((of_decide_eq_true intZero).trans (of_decide_eq_true realZero).symm)
    rw [isNegativeZero, realZero, Bool.true_and] at positive
    rw [positive, (Binary64.int_magnitude i).2, none]
    rfl
  rw [← same, Binary64.integer_text i small]

theorem int_text_unsigned_zero (i : Int) : toString i ≠ "-0" := by
  intro same
  have read := Decimal.int_text_read i
  rw [same] at read
  obtain rfl : 0 = i := Option.some.inj read
  revert same
  decide

theorem integer_unsigned {value : Value n} {i : Int} (number : value.number? = some (.integer i)) :
    value.isNegativeZero = false := by
  cases value <;> cases number <;> rfl

theorem integer_kind {value : Value n} {i : Int} (number : value.number? = some (.integer i)) :
    value.kind ≠ .float := by
  cases value <;> cases number <;> nofun

theorem float_value {value : Value n} {real : Binary64} (number : value.number? = some (.float real)) :
    value = .float real := by
  cases value <;> cases number
  rfl

theorem unrounded_of_kinds (kinds : left.kind = .float ↔ right.kind = .float) : Unrounded left right := by
  rintro i real (⟨number, rfl⟩ | ⟨rfl, number⟩)
  · exact absurd (kinds.mpr rfl) (integer_kind number)
  · exact absurd (kinds.mp rfl) (integer_kind number)

theorem unrounded_symm (unrounded : Unrounded left right) : Unrounded right left :=
  fun i real beside => unrounded i real (beside.symm.imp And.symm And.symm)

theorem unrounded_beside {value : Value n} {i : Int} {real : Binary64}
    (number : value.number? = some (.integer i)) :
    Unrounded value (.float real) ↔ (2 ^ 53 < i.natAbs → real.text = toString i) := by
  constructor
  · exact fun unrounded => unrounded i real (.inl ⟨number, rfl⟩)
  · rintro large j other (⟨same, ⟨⟩⟩ | ⟨rfl, _⟩)
    · obtain rfl := Number.integer.inj (Option.some.inj (number.symm.trans same))
      exact large
    · cases number

theorem integer_forms {value : Value n} {i : Int} {real : Binary64} (number : value.number? = some (.integer i))
    (keys : (Binary64.ofInt i).key = real.key) :
    value.form? = (.float real : Value n).form? ↔
      value.isNegativeZero = (.float real : Value n).isNegativeZero ∧ Unrounded value (.float real) := by
  rw [form_integer number, integer_unsigned number, unrounded_beside number]
  cases negative : (.float real : Value n).isNegativeZero with
  | true =>
      rw [negative_zero_form negative, Option.some.injEq]
      exact iff_of_false (int_text_unsigned_zero i) fun both => by cases both.1
  | false =>
      rw [form?, Option.some.injEq]
      constructor
      · exact fun same => ⟨rfl, fun _ => same.symm⟩
      · rintro ⟨_, large⟩
        by_cases small : i.natAbs ≤ 2 ^ 53
        · exact (integer_beside_float keys small negative).symm
        · exact (large (Nat.lt_of_not_le small)).symm

theorem float_forms {a b : Binary64} (aNumber : a.isNaN = false) (bNumber : b.isNaN = false)
    (keys : a.key = b.key) :
    (.float a : Value n).form? = (.float b : Value n).form? ↔
      (.float a : Value n).isNegativeZero = (.float b : Value n).isNegativeZero := by
  constructor
  · intro same
    rw [Binary64.text_injective aNumber bNumber (Option.some.inj same)]
  · intro signs
    rw [Binary64.word_of_key keys (zeros_same signs)]

theorem number_forms {x y : Number} (leftNumber : left.number? = some x) (rightNumber : right.number? = some y)
    (equal : x.compare? y = some .eq) :
    left.form? = right.form? ↔ left.isNegativeZero = right.isNegativeZero ∧ Unrounded left right := by
  have both : (x.isNaN || y.isNaN) = false := by
    rw [← compare_numbers_none, equal]
    rfl
  obtain ⟨xNumber, yNumber⟩ := Bool.or_eq_false_iff.mp both
  have keys := Number.equal_rounded xNumber yNumber equal
  cases x with
  | integer i =>
      cases y with
      | integer k =>
          refine iff_of_true ((one_kind_iff (.integers leftNumber rightNumber)).mp ?_)
            ⟨(integer_unsigned leftNumber).trans (integer_unsigned rightNumber).symm,
              unrounded_of_kinds (iff_of_false (integer_kind leftNumber) (integer_kind rightNumber))⟩
          exact (compare_ok_iff leftNumber rightNumber).1.mpr equal
      | float b =>
          obtain rfl := float_value rightNumber
          exact integer_forms leftNumber keys
  | float a =>
      obtain rfl := float_value leftNumber
      cases y with
      | integer k =>
          rw [eq_comm, @eq_comm Bool]
          exact (integer_forms rightNumber keys.symm).trans
            (and_congr_right' ⟨unrounded_symm, unrounded_symm⟩)
      | float b =>
          obtain rfl := float_value rightNumber
          exact (float_forms xNumber yNumber keys).trans
            (iff_self_and.mpr fun _ => unrounded_of_kinds Iff.rfl)

theorem equal_forms (equal : compare .eq left right = .ok true) :
    left.form? = right.form? ↔ left.isNegativeZero = right.isNegativeZero ∧ Unrounded left right := by
  cases pairing left right with
  | nils => exact iff_of_true rfl ⟨rfl, unrounded_of_kinds Iff.rfl⟩
  | nilLeft set =>
      rw [compare_nil_left .eq right set] at equal
      cases equal
  | nilRight set =>
      rw [compare_nil_right .eq left set] at equal
      cases equal
  | apart leftSet rightSet apart =>
      rw [compare_apart leftSet rightSet apart] at equal
      cases equal
  | bools a b => exact iff_of_true ((one_kind_iff (.bools a b)).mp equal) ⟨rfl, unrounded_of_kinds Iff.rfl⟩
  | ordered ordered =>
      cases ordered with
      | texts a b => exact iff_of_true ((one_kind_iff (.texts a b)).mp equal) ⟨rfl, unrounded_of_kinds Iff.rfl⟩
      | lengths a b =>
          exact iff_of_true ((one_kind_iff (.lengths a b)).mp equal) ⟨rfl, unrounded_of_kinds Iff.rfl⟩
      | moments a b =>
          rw [compare, Except.ok.injEq, Comparison.holds, beq_iff_eq, Moment.compare, Ordering.then_eq_eq,
            Std.compare_eq_iff_eq, Std.compare_eq_iff_eq] at equal
          obtain rfl : a = b := by
            cases a
            cases b
            simp_all
          exact iff_of_true rfl ⟨rfl, unrounded_of_kinds Iff.rfl⟩
      | numbers leftNumber rightNumber =>
          exact number_forms leftNumber rightNumber ((compare_ok_iff leftNumber rightNumber).1.mp equal)

structure SameLiterals (S : Schema n) (record : Instance n) (path other : FieldPath n) (left right : Value n) :
    Prop where
  equal : ∀ literal, Check.equal literal left = Check.equal literal right
  notEqual : ∀ literal, Check.notEqual literal left = Check.notEqual literal right
  oneOf : ∀ param, Check.oneOf param left = Check.oneOf param right
  condition : ∀ literal, Condition.holds S record ⟨path, literal⟩ = Condition.holds S record ⟨other, literal⟩

theorem equal_literal_iff (literal : String) (value : Value n) :
    Check.equal literal value = none ↔ value.form? = some literal := by
  simp [Check.equal, Check.ofTest]

theorem same_literals_iff {S : Schema n} {record : Instance n} {path other : FieldPath n}
    (pathReads : path.read S record = .ok left) (otherReads : other.read S record = .ok right) :
    SameLiterals S record path other left right ↔ left.form? = right.form? := by
  constructor
  · intro same
    refine Option.ext fun literal => ?_
    rw [← equal_literal_iff, ← equal_literal_iff, same.equal literal]
  · intro forms
    exact {
      equal := fun literal => by rw [Check.equal, Check.ofTest, Check.ofTest, forms]
      notEqual := fun literal => by rw [Check.notEqual, Check.ofTest, Check.ofTest, forms]
      oneOf := fun param => by simp only [Check.oneOf, Check.ofTest, forms]
      condition := fun literal => by simp only [Condition.holds, pathReads, otherReads, forms] }

theorem empty_number_form {value : Value n} {x : Number} (number : value.number? = some x)
    (empty : value.isEmpty = true) : Check.equal "0" value = none ↔ value.isNegativeZero = false := by
  rw [equal_literal_iff]
  cases x with
  | integer i =>
      obtain rfl : i = 0 := by
        cases value <;> cases number
        · exact of_decide_eq_true empty
        · exact Int.ofNat_eq_zero.mpr (of_decide_eq_true empty)
      exact iff_of_true (form_integer number) (integer_unsigned number)
  | float real =>
      obtain rfl := float_value number
      cases negative : (.float real : Value n).isNegativeZero with
      | true =>
          rw [negative_zero_form negative]
          exact iff_of_false (by decide) nofun
      | false =>
          have zero : real.isZero = true := empty
          rw [isNegativeZero, zero, Bool.true_and] at negative
          have word : real = .zero := Binary64.word_of_parts negative (of_decide_eq_true zero)
          rw [word]
          exact iff_of_true rfl rfl

theorem literal_equality :
    (∀ left right : Value n, OneKind left right →
      (compare .eq left right = .ok true ↔ left.form? = right.form?)) ∧
    (∀ (S : Schema n) record path other (left right : Value n), FieldPath.read S path record = .ok left →
      FieldPath.read S other record = .ok right →
      CrossRule.relationalViolation? S record left .eq other = none →
      (SameLiterals S record path other left right ↔
        left.isNegativeZero = right.isNegativeZero ∧ Unrounded left right)) ∧
    ∀ (value : Value n) number, value.number? = some number → value.isEmpty = true →
      (Check.equal "0" value = none ↔ value.isNegativeZero = false) := by
  refine ⟨fun left right => one_kind_iff, ?_, fun value number => empty_number_form⟩
  intro S record path other left right pathReads otherReads satisfied
  have equal : compare .eq left right = .ok true := by
    simp only [CrossRule.relationalViolation?, otherReads] at satisfied
    split at satisfied
    · assumption
    · cases satisfied
    · cases satisfied
  rw [same_literals_iff pathReads otherReads, equal_forms equal]

theorem written_apart :
    let negative : Value 0 := .float ⟨0x8000000000000000⟩
    let positive : Value 0 := .float ⟨0⟩
    let whole : Value 0 := .uint 0x20000000000001
    let rounded : Value 0 := .float ⟨0x4340000000000000⟩
    compare .eq negative positive = .ok true ∧ negative.form? = some "-0" ∧ positive.form? = some "0" ∧
      negative.isEmpty = true ∧ Check.equal "0" negative ≠ none ∧
      compare .eq whole rounded = .ok true ∧ whole.form? ≠ rounded.form? := by
  intro negative positive whole rounded
  refine ⟨rfl, rfl, rfl, rfl, ?_, rfl, ?_⟩
  · rw [Ne, equal_literal_iff]
    decide
  · decide

end Value

def gaugeId : Fin 1 := ⟨0, Nat.one_pos⟩

def gauges : Schema 1 := fun _ =>
  { name := "Gauge"
    fields := [⟨"count", .uint, "", true⟩, ⟨"level", .float, "", true⟩]
    checks := [] }

def evenGauge : Instance 1 := ⟨gaugeId, [.uint 3, .float ⟨0x4008000000000000⟩]⟩

theorem even_gauge_literals :
    let count : FieldPath 1 := ⟨"count", gaugeId, [⟨"count", 0, .uint⟩]⟩
    let level : FieldPath 1 := ⟨"level", gaugeId, [⟨"level", 1, .float⟩]⟩
    Value.SameLiterals gauges evenGauge count level (.uint 3) (.float ⟨0x4008000000000000⟩) ∧
      (Value.compare .eq (.int (-4) : Value 1) (.uint 4) = .ok true ↔
        (.int (-4) : Value 1).form? = (.uint 4 : Value 1).form?) ∧
      Check.equal "0" (.float ⟨0⟩ : Value 1) = none := by
  intro count level
  obtain ⟨kinds, fields, empty⟩ := Value.literal_equality (n := 1)
  refine ⟨(fields gauges evenGauge count level _ _ rfl rfl rfl).mpr ⟨rfl, ?_⟩,
    kinds _ _ (.integers rfl rfl), (empty _ _ rfl rfl).mpr rfl⟩
  rintro i real (⟨number, _⟩ | ⟨other, _⟩) large
  · obtain rfl : (3 : Int) = i := Number.integer.inj (Option.some.inj number)
    exact absurd large (by decide)
  · cases other

end RecordRules
