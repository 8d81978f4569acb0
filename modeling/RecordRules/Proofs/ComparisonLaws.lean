import Mathlib.Data.String.Basic
import RecordRules.Proofs.ByteOrder
import RecordRules.Proofs.Conformance
import RecordRules.Proofs.Rounding

set_option autoImplicit false

namespace RecordRules

variable {n : Nat}

namespace Comparison

def Relates {α : Type} [LT α] (a b : α) : Comparison → Prop
  | eq => a = b
  | ne => a ≠ b
  | gt => b < a
  | gte => b < a ∨ a = b
  | lt => a < b
  | lte => a < b ∨ a = b

theorem holds_relates {α : Type} [LT α] (a b : α) (outcome : Ordering) (less : outcome = .lt ↔ a < b)
    (same : outcome = .eq ↔ a = b) (more : outcome = .gt ↔ b < a) (op : Comparison) :
    op.holds outcome = true ↔ op.Relates a b := by
  cases op <;> simp only [Relates, ne_eq, ← less, ← same, ← more] <;> cases outcome <;> decide

def verdict (op : Comparison) : Option Ordering → Bool
  | some outcome => op.holds outcome
  | none => op = ne

theorem verdict_flip_swap (op : Comparison) (outcome : Option Ordering) :
    op.flip.verdict (outcome.map Ordering.swap) = op.verdict outcome := by
  cases outcome with
  | none => cases op <;> rfl
  | some outcome => exact op.holds_flip_swap outcome

end Comparison

def Number.isNaN : Number → Bool
  | integer _ => false
  | float value => value.isNaN

theorem nan_of_binary (x : Number) : x.toBinary64.isNaN = x.isNaN := by
  cases x with
  | integer value => exact Binary64.of_int_number value
  | float value => rfl

theorem compare_numbers_swap (x y : Number) : (x.compare? y).map Ordering.swap = y.compare? x := by
  cases x with
  | integer a =>
      cases y with
      | integer b => exact congrArg some (Int.compare_swap a b)
      | float value => exact Binary64.compare_swap _ _
  | float value => cases y <;> exact Binary64.compare_swap _ _

theorem compare_numbers_none (x y : Number) : (x.compare? y).isNone = (x.isNaN || y.isNaN) := by
  have rounded : (x.toBinary64.compare? y.toBinary64).isNone = (x.isNaN || y.isNaN) := by
    rw [Binary64.compare?, nan_of_binary, nan_of_binary]
    cases x.isNaN || y.isNaN <;> rfl
  cases x with
  | integer a =>
      cases y with
      | integer b => rfl
      | float value => exact rounded
  | float value => cases y <;> exact rounded

theorem moment_swap (a b : Moment) : Moment.compare b a = (Moment.compare a b).swap := by
  rw [Moment.compare, Moment.compare, Ordering.swap_then, Int.compare_swap, Nat.compare_swap]

namespace Value

def isNaN : Value n → Bool
  | float value => value.isNaN
  | _ => false

theorem number_nan (value : Value n) (number : Number) (numeric : value.number? = some number) :
    number.isNaN = value.isNaN := by
  cases value <;> cases numeric <;> rfl

inductive Ordered : Value n → Value n → Option Ordering → Prop where
  | numbers {left right : Value n} {x y : Number} (leftNumber : left.number? = some x)
      (rightNumber : right.number? = some y) : Ordered left right (x.compare? y)
  | texts (a b : String) : Ordered (.str a) (.str b) (some (Ord.compare a b))
  | moments (a b : Moment) : Ordered (.time a) (.time b) (some (Moment.compare a b))
  | lengths (a b : Nat) : Ordered (.seq a) (.seq b) (some (Ord.compare a b))

theorem compare_numbers_verdict (op : Comparison) (x y : Number) :
    compareNumbers op x y = op.verdict (x.compare? y) := by
  rw [compareNumbers]
  cases x.compare? y <;> rfl

variable {left right : Value n} {outcome : Option Ordering}

theorem ordered_compare (ordered : Ordered left right outcome) (op : Comparison) :
    compare op left right = .ok (op.verdict outcome) := by
  cases ordered with
  | numbers leftNumber rightNumber =>
      rw [← compare_numbers_verdict]
      cases left <;> cases leftNumber <;> cases right <;> cases rightNumber <;> rfl
  | texts a b => rfl
  | moments a b => rfl
  | lengths a b => rfl

theorem ordered_swap (ordered : Ordered left right outcome) :
    Ordered right left (outcome.map Ordering.swap) := by
  cases ordered with
  | numbers leftNumber rightNumber =>
      rw [compare_numbers_swap]
      exact .numbers rightNumber leftNumber
  | texts a b =>
      rw [Option.map_some, ← Std.OrientedOrd.eq_swap]
      exact .texts b a
  | moments a b =>
      rw [Option.map_some, ← moment_swap]
      exact .moments b a
  | lengths a b =>
      rw [Option.map_some, Nat.compare_swap]
      exact .lengths b a

theorem ordered_none (ordered : Ordered left right outcome) :
    outcome.isNone = (left.isNaN || right.isNaN) := by
  cases ordered with
  | numbers leftNumber rightNumber =>
      rw [compare_numbers_none, number_nan left _ leftNumber, number_nan right _ rightNumber]
  | texts a b => rfl
  | moments a b => rfl
  | lengths a b => rfl

def hasOrder : FieldKind → Bool
  | .number | .text | .timestamp | .sequence => true
  | .bool | .record => false

theorem ordered_in_domain (domain : FieldKind) (order : hasOrder domain = true)
    (leftKind : left.fieldKind? = some domain) (rightKind : right.fieldKind? = some domain) :
    ∃ outcome, Ordered left right outcome := by
  have numbers {value : Value n} (kind : value.fieldKind? = some .number) : ∃ x, value.number? = some x := by
    cases value <;> cases kind <;> exact ⟨_, rfl⟩
  cases domain with
  | bool => cases order
  | record => cases order
  | number =>
      obtain ⟨x, leftNumber⟩ := numbers leftKind
      obtain ⟨y, rightNumber⟩ := numbers rightKind
      exact ⟨_, .numbers leftNumber rightNumber⟩
  | text =>
      cases left <;> cases leftKind
      cases right <;> cases rightKind
      exact ⟨_, .texts _ _⟩
  | timestamp =>
      cases left <;> cases leftKind
      cases right <;> cases rightKind
      exact ⟨_, .moments _ _⟩
  | sequence =>
      cases left <;> cases leftKind
      cases right <;> cases rightKind
      exact ⟨_, .lengths _ _⟩

theorem field_kind_set (set : left ≠ .nil) : ∃ domain, left.fieldKind? = some domain := by
  cases left with
  | nil => exact absurd rfl set
  | _ => exact ⟨_, rfl⟩

def Apart (left right : Value n) : Prop :=
  left.fieldKind? ≠ right.fieldKind? ∨ left.fieldKind? = some .record

theorem compare_apart (leftSet : left ≠ .nil) (rightSet : right ≠ .nil) (apart : Apart left right)
    (op : Comparison) : compare op left right = .error (.incompatible left.kind right.kind) := by
  cases left <;> cases right <;> simp_all [Apart, fieldKind?, compare, number?]

theorem apart_symm (apart : Apart left right) : Apart right left := by
  rcases apart with different | record
  · exact .inl (Ne.symm different)
  · by_cases same : left.fieldKind? = right.fieldKind?
    · exact .inr (same ▸ record)
    · exact .inl (Ne.symm same)

inductive Pairing : Value n → Value n → Prop where
  | nils : Pairing .nil .nil
  | nilLeft {other : Value n} (set : other ≠ .nil) : Pairing .nil other
  | nilRight {value : Value n} (set : value ≠ .nil) : Pairing value .nil
  | bools (a b : Bool) : Pairing (.bool a) (.bool b)
  | ordered {left right : Value n} {outcome : Option Ordering} (ordered : Ordered left right outcome) :
      Pairing left right
  | apart {left right : Value n} (leftSet : left ≠ .nil) (rightSet : right ≠ .nil)
      (apart : Apart left right) : Pairing left right

theorem pairing (left right : Value n) : Pairing left right := by
  by_cases noLeft : left = .nil
  · by_cases noRight : right = .nil
    · exact noLeft ▸ noRight ▸ .nils
    · exact noLeft ▸ .nilLeft noRight
  · by_cases noRight : right = .nil
    · exact noRight ▸ .nilRight noLeft
    · by_cases far : Apart left right
      · exact .apart noLeft noRight far
      · obtain ⟨same, noRecord⟩ := not_or.mp far
        rw [not_not] at same
        obtain ⟨domain, kind⟩ := field_kind_set noLeft
        rw [kind] at same noRecord
        cases domain with
        | record => exact absurd rfl noRecord
        | bool =>
            cases left <;> cases kind
            cases right <;> cases same
            exact .bools _ _
        | number | text | timestamp | sequence =>
            obtain ⟨_, ordered⟩ := ordered_in_domain _ rfl kind same.symm
            exact .ordered ordered

theorem compare_flip (op : Comparison) (left right : Value n) :
    (compare op.flip right left).toOption = (compare op left right).toOption := by
  cases pairing left right with
  | nils => cases op <;> rfl
  | nilLeft set =>
      rw [compare_nil_left op right set, compare_nil_right op.flip right set]
  | nilRight set =>
      rw [compare_nil_right op left set, compare_nil_left op.flip left set]
  | bools a b => cases op <;> cases a <;> cases b <;> rfl
  | ordered ordered =>
      rw [ordered_compare ordered, ordered_compare (ordered_swap ordered), op.verdict_flip_swap]
  | apart leftSet rightSet apart =>
      rw [compare_apart leftSet rightSet apart, compare_apart rightSet leftSet (apart_symm apart)]
      rfl

theorem compare_ne (leftSet : left ≠ .nil) (rightSet : right ≠ .nil) :
    compare .ne left right = (compare .eq left right).map (!·) := by
  cases pairing left right with
  | nils => exact absurd rfl leftSet
  | nilLeft set => exact absurd rfl leftSet
  | nilRight set => exact absurd rfl rightSet
  | bools a b => rfl
  | @ordered _ _ outcome ordered =>
      rw [ordered_compare ordered, ordered_compare ordered]
      cases outcome <;> rfl
  | apart leftSet rightSet apart =>
      rw [compare_apart leftSet rightSet apart, compare_apart leftSet rightSet apart]
      rfl

theorem compare_integers {a b : Int} (leftNumber : left.number? = some (.integer a))
    (rightNumber : right.number? = some (.integer b)) (op : Comparison) :
    ∃ outcome, compare op left right = .ok outcome ∧ (outcome = true ↔ op.Relates a b) := by
  refine ⟨_, ordered_compare (.numbers leftNumber rightNumber) op, ?_⟩
  exact Comparison.holds_relates a b (Ord.compare a b) Int.compare_eq_lt Std.compare_eq_iff_eq
    Int.compare_eq_gt op

theorem compare_texts (a b : String) (op : Comparison) :
    ∃ outcome, compare op (.str a : Value n) (.str b) = .ok outcome ∧
      (outcome = true ↔ op.Relates (Text.Utf8.bytes a) (Text.Utf8.bytes b)) := by
  refine ⟨_, ordered_compare (.texts a b) op, ?_⟩
  have less (a b : String) : Ord.compare a b = .lt ↔ Text.Utf8.bytes a < Text.Utf8.bytes b :=
    compare_lt_iff_lt.trans (Text.Utf8.lt_iff_bytes_lt a b)
  have more : Ord.compare a b = .gt ↔ Text.Utf8.bytes b < Text.Utf8.bytes a :=
    Std.OrientedCmp.gt_iff_lt.trans (less b a)
  exact Comparison.holds_relates _ _ (Ord.compare a b) (less a b)
    (Std.compare_eq_iff_eq.trans (Text.Utf8.bytes_injective a b).symm) more op

structure CompareLaws (left right : Value n) : Prop where
  nils : left = .nil → right = .nil → ∀ op, compare op left right = .ok (op = .eq)
  nilLeft : left = .nil → right ≠ .nil → ∀ op, compare op left right = .error (.nilOperand right.kind)
  nilRight : left ≠ .nil → right = .nil → ∀ op, compare op left right = .error (.nilOperand left.kind)
  bools : left.fieldKind? = some .bool → right.fieldKind? = some .bool → ∀ op : Comparison,
    if op.needsOrder then compare op left right = .error (.unordered .bool)
    else ∃ outcome, compare op left right = .ok outcome
  oneDomain : ∀ domain, hasOrder domain = true → left.fieldKind? = some domain →
    right.fieldKind? = some domain → ∀ op, ∃ outcome, compare op left right = .ok outcome
  apart : left ≠ .nil → right ≠ .nil → Apart left right → ∀ op,
    compare op left right = .error (.incompatible left.kind right.kind)
  unequal : left ≠ .nil → right ≠ .nil → compare .ne left right = (compare .eq left right).map (!·)
  ordering : left ≠ .nil → right ≠ .nil → ∀ op outcome, op.needsOrder = true →
    compare op left right = .ok outcome → ∃ less equal greater,
      compare .lt left right = .ok less ∧ compare .eq left right = .ok equal ∧
      compare .gt left right = .ok greater ∧ compare .gte left right = .ok (greater || equal) ∧
      compare .lte left right = .ok (less || equal) ∧
      [less, equal, greater].count true = if left.isNaN || right.isNaN then 0 else 1
  flipped : ∀ op, (compare op.flip right left).toOption = (compare op left right).toOption
  integers : ∀ a b, left.number? = some (.integer a) → right.number? = some (.integer b) → ∀ op,
    ∃ outcome, compare op left right = .ok outcome ∧ (outcome = true ↔ op.Relates a b)
  texts : ∀ a b, left = .str a → right = .str b → ∀ op, ∃ outcome,
    compare op left right = .ok outcome ∧
      (outcome = true ↔ op.Relates (Text.Utf8.bytes a) (Text.Utf8.bytes b))

theorem ordering_of_some (leftSet : left ≠ .nil) (rightSet : right ≠ .nil) (op : Comparison)
    (outcome : Bool) (needs : op.needsOrder = true) (compared : compare op left right = .ok outcome) :
    ∃ ordering, Ordered left right ordering := by
  cases pairing left right with
  | nils => exact absurd rfl leftSet
  | nilLeft => exact absurd rfl leftSet
  | nilRight => exact absurd rfl rightSet
  | bools a b =>
      rw [compare, if_pos needs] at compared
      cases compared
  | ordered ordered => exact ⟨_, ordered⟩
  | apart leftSet rightSet apart =>
      rw [compare_apart leftSet rightSet apart] at compared
      cases compared

theorem compare_laws (left right : Value n) : CompareLaws left right where
  nils noLeft noRight op := by rw [noLeft, noRight, compare]
  nilLeft noLeft rightSet op := by rw [noLeft, compare_nil_left op right rightSet]
  nilRight leftSet noRight op := by rw [noRight, compare_nil_right op left leftSet]
  bools leftKind rightKind op := by
    cases left <;> cases leftKind
    cases right <;> cases rightKind
    rw [compare]
    split
    · rfl
    · exact ⟨_, rfl⟩
  oneDomain domain order leftKind rightKind op := by
    obtain ⟨_, ordered⟩ := ordered_in_domain domain order leftKind rightKind
    exact ⟨_, ordered_compare ordered op⟩
  apart leftSet rightSet apart op := compare_apart leftSet rightSet apart op
  unequal leftSet rightSet := compare_ne leftSet rightSet
  ordering leftSet rightSet op outcome needs compared := by
    obtain ⟨ordering, ordered⟩ := ordering_of_some leftSet rightSet op outcome needs compared
    refine ⟨_, _, _, ordered_compare ordered .lt, ordered_compare ordered .eq, ordered_compare ordered .gt, ?_⟩
    rw [ordered_compare ordered, ordered_compare ordered, ← ordered_none ordered]
    rcases ordering with _ | _ | _ | _ <;> exact ⟨rfl, rfl, rfl⟩
  flipped op := compare_flip op left right
  integers _ _ leftNumber rightNumber op := compare_integers leftNumber rightNumber op
  texts a b leftText rightText op := by rw [leftText, rightText]; exact compare_texts a b op

-- Integers of both signs meet at full width, and a number that is none is unequal to itself.
example : compare .lt (.int (-1) : Value 0) (.uint 0xFFFFFFFFFFFFFFFF) = .ok true := rfl

example : compare .ne (.float ⟨0x7FF8000000000000⟩ : Value 0) (.float ⟨0x7FF8000000000000⟩) = .ok true := rfl

end Value

end RecordRules
