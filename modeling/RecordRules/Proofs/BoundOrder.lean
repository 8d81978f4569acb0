import RecordRules.Check.Catalog
import RecordRules.Proofs.ComparisonLaws
import RecordRules.Proofs.Numerals

set_option autoImplicit false

namespace RecordRules

variable {n : Nat}

def ValueKind.isMeasured : ValueKind → Bool
  | str | seq | int | uint | float => true
  | nil | bool | time | record => false

def Value.whole? : Value n → Option Int
  | str text => some text.length
  | seq length => some length
  | int value => some value.toInt
  | uint value => some value.toNat
  | _ => none

theorem read_number {text : List Char} {limit : Number} (read : Number.read? text = some limit) :
    limit.isNaN = false := by
  rw [Number.read?] at read
  split at read
  case h_1 => cases read; rfl
  case h_2 =>
      obtain ⟨value, kept, rfl⟩ := Option.map_eq_some_iff.mp read
      exact Binary64.finite_number (Option.filter_eq_some_iff.mp kept).2

namespace Bound

def rules : List (String × Comparison) :=
  [("min", .gte), ("max", .lte), ("len", .eq), ("gt", .gt), ("gte", .gte), ("lt", .lt), ("lte", .lte)]

def verdict (rule param : String) (value : Value n) : Except RuleError (Option Violation) :=
  (Catalog.standard.build rule (some param)).map (· value)

def accepts (rule param : String) (value : Value n) : Bool :=
  match verdict rule param value with
  | .ok none => true
  | _ => false

def standing (limit : Number) (value : Value n) : Option Ordering :=
  (measure? value).bind fun measured => measured.2.compare? limit

theorem rule_found {entry : String × Comparison} (member : entry ∈ rules) :
    (Catalog.standard (n := n)).find? entry.1 = some (Catalog.bound entry.1 entry.2).2 := by
  simp only [rules, List.mem_cons, List.not_mem_nil, or_false] at member
  rcases member with rfl | rfl | rfl | rfl | rfl | rfl | rfl <;>
    simp [Catalog.standard, Dictionary.ofList, Dictionary.insertAll, Catalog.builtins, Catalog.bound,
      Catalog.plain, Catalog.taking, Catalog.format]

variable {param : String} {limit : Number} {entry : String × Comparison} {value : Value n}

theorem verdict_read (read : Number.read? param.toList = some limit) (member : entry ∈ rules) :
    verdict entry.1 param value = .ok (check ⟨entry.2, limit⟩ value) := by
  have filled : param.isEmpty = false := by
    rw [Bool.eq_false_iff, Ne, String.isEmpty_iff]
    rintro rfl
    cases read
  rw [verdict, Catalog.build, rule_found member]
  simp only [Catalog.bound, Check.withParam, filled, Bool.false_eq_true, if_false, Bound.read, read]
  rfl

theorem check_passes (op : Comparison) (limit : Number) (value : Value n) :
    (check ⟨op, limit⟩ value).isNone = (standing limit value).any op.holds := by
  rw [check, standing]
  cases measure? value with
  | none => rfl
  | some measured =>
      obtain ⟨subject, measure⟩ := measured
      have admitted : admits ⟨op, limit⟩ measure = (measure.compare? limit).any op.holds := by
        rw [admits]
        cases measure.compare? limit <;> rfl
      simp only [Option.bind_some, admitted]
      cases (measure.compare? limit).any op.holds <;> rfl

theorem accepts_read (read : Number.read? param.toList = some limit) (rule : String) (op : Comparison)
    (member : (rule, op) ∈ rules) : accepts rule param value = (standing limit value).any op.holds := by
  rw [accepts, verdict_read read member, ← check_passes]
  cases check ⟨op, limit⟩ value <;> rfl

theorem measure_nan {subject : String} {measure : Number} (measured : measure? value = some (subject, measure)) :
    measure.isNaN = value.isNaN := by
  cases value <;> cases measured <;> rfl

theorem measure_some (kind : value.kind.isMeasured = true) :
    ∃ subject measure, measure? value = some (subject, measure) := by
  cases value <;> cases kind <;> exact ⟨_, _, rfl⟩

theorem measure_none (kind : value.kind.isMeasured = false) : measure? value = none := by
  cases value <;> cases kind <;> rfl

theorem measure_whole {whole : Int} (measured : value.whole? = some whole) :
    ∃ subject, measure? value = some (subject, .integer whole) := by
  cases value <;> cases measured <;> exact ⟨_, rfl⟩

theorem standing_none (read : Number.read? param.toList = some limit) (kind : value.kind.isMeasured = true) :
    (standing limit value).isNone = value.isNaN := by
  obtain ⟨subject, measure, measured⟩ := measure_some kind
  rw [standing, measured, Option.bind_some, compare_numbers_none, read_number read, Bool.or_false,
    measure_nan measured]

theorem standing_whole {whole bound : Int} (measured : value.whole? = some whole) :
    standing (.integer bound) value = some (compare whole bound) := by
  obtain ⟨subject, measured⟩ := measure_whole measured
  rw [standing, measured]
  rfl

structure OneOrder (param : String) (value : Value n) : Prop where
  made : ∀ entry ∈ rules, ∃ violation?, verdict entry.1 param value = .ok violation?
  once : value.kind.isMeasured = true → value.isNaN = false →
    [accepts "lt" param value, accepts "len" param value, accepts "gt" param value].count true = 1
  least : accepts "min" param value = (accepts "gt" param value || accepts "len" param value) ∧
    accepts "gte" param value = (accepts "gt" param value || accepts "len" param value)
  most : accepts "max" param value = (accepts "lt" param value || accepts "len" param value) ∧
    accepts "lte" param value = (accepts "lt" param value || accepts "len" param value)
  noNumber : value.isNaN = true → ∀ entry ∈ rules, ∃ violation,
    verdict entry.1 param value = .ok (some violation)
  beyond : value.kind.isMeasured = true → ∀ entry ∈ rules, ∀ violation,
    verdict entry.1 param value = .ok (some violation) → violation.code = "bound"
  unmeasured : value.kind.isMeasured = false → ∀ entry ∈ rules,
    verdict entry.1 param value = .ok (some (.typeMismatch "string, sequence or number" value.kind.name))

theorem check_code (bound : Bound) (kind : value.kind.isMeasured = true) {violation : Violation}
    (fails : bound.check value = some violation) : violation.code = "bound" := by
  obtain ⟨subject, measure, measured⟩ := measure_some kind
  simp only [check, measured] at fails
  split at fails
  · cases fails
  · cases fails
    rfl

theorem one_order (read : Number.read? param.toList = some limit) (value : Value n) : OneOrder param value where
  made entry member := ⟨_, verdict_read read member⟩
  once kind number := by
    rw [accepts_read read "lt" .lt (by decide), accepts_read read "len" .eq (by decide),
      accepts_read read "gt" .gt (by decide)]
    rw [← standing_none read kind] at number
    cases place : standing limit value with
    | none =>
        rw [place] at number
        cases number
    | some outcome => cases outcome <;> rfl
  least := by
    rw [accepts_read read "min" .gte (by decide),
      accepts_read read "gte" .gte (by decide),
      accepts_read read "len" .eq (by decide), accepts_read read "gt" .gt (by decide)]
    rcases standing limit value with _ | _ | _ | _ <;> exact ⟨rfl, rfl⟩
  most := by
    rw [accepts_read read "max" .lte (by decide),
      accepts_read read "lte" .lte (by decide),
      accepts_read read "len" .eq (by decide), accepts_read read "lt" .lt (by decide)]
    rcases standing limit value with _ | _ | _ | _ <;> exact ⟨rfl, rfl⟩
  noNumber none := by
    intro entry member
    have kind : value.kind.isMeasured = true := by cases value <;> first | rfl | cases none
    have passes := check_passes entry.2 limit value
    rw [Option.isNone_iff_eq_none.mp ((standing_none read kind).trans none)] at passes
    obtain ⟨violation, fails⟩ := Option.isSome_iff_exists.mp (Option.isNone_eq_false_iff.mp passes)
    exact ⟨violation, fails ▸ verdict_read read member⟩
  beyond kind entry member violation fails := by
    rw [verdict_read read member, Except.ok.injEq] at fails
    exact check_code _ kind fails
  unmeasured kind entry member := by
    rw [verdict_read read member, check, measure_none kind]

theorem standing_mono {low high : Int} (le : low ≤ high) (value : Value n) :
    ((standing (.integer high) value).any Comparison.gte.holds = true →
      (standing (.integer low) value).any Comparison.gte.holds = true) ∧
    ((standing (.integer low) value).any Comparison.lte.holds = true →
      (standing (.integer high) value).any Comparison.lte.holds = true) := by
  have ordered {a b c : Int} (le : b ≤ c) :
      (Comparison.gte.holds (compare a c) = true → Comparison.gte.holds (compare a b) = true) ∧
        (Comparison.lte.holds (compare a b) = true → Comparison.lte.holds (compare a c) = true) := by
    simp only [Comparison.holds, bne_iff_ne, ne_eq, Int.compare_eq_lt, Int.compare_eq_gt]
    omega
  rw [standing, standing]
  cases measure? value with
  | none => exact ⟨id, id⟩
  | some measured =>
      obtain ⟨subject, measure⟩ := measured
      cases measure with
      | integer whole => exact ordered le
      | float real =>
          have rounded (bound : Int) : (Number.float real).compare? (.integer bound) =
              if real.isNaN then none else some (compare real.key (Binary64.ofInt bound).key) := by
            simp only [Number.compare?, Number.toBinary64, Binary64.compare?, Binary64.of_int_number,
              Bool.or_false]
          simp only [Option.bind_some, rounded]
          split
          · exact ⟨id, id⟩
          · exact ordered (Binary64.key_mono le)

theorem bounds_one_order :
    (∀ param limit, Number.read? param.toList = some limit → ∀ value : Value n, OneOrder param value) ∧
    ∀ param bound, IsIntegerText param bound → Number.InRange bound →
      Number.read? param.toList = some (.integer bound) ∧
      (∀ (value : Value n) whole, value.whole? = some whole → ∀ entry ∈ rules,
        (accepts entry.1 param value = true ↔ entry.2.Relates whole bound)) ∧
      ∀ higher above, IsIntegerText higher above → Number.InRange above → bound ≤ above → ∀ value : Value n,
        (accepts "min" higher value = true → accepts "min" param value = true) ∧
        (accepts "max" param value = true → accepts "max" higher value = true) := by
  refine ⟨fun param limit read value => one_order read value, ?_⟩
  intro param bound spelled within
  have read := (read_integer_iff param bound).mpr ⟨spelled, within⟩
  refine ⟨read, ?_, ?_⟩
  · intro value whole measured entry member
    rw [accepts_read read _ _ member, standing_whole measured]
    exact Comparison.holds_relates whole bound _ Int.compare_eq_lt Std.compare_eq_iff_eq Int.compare_eq_gt entry.2
  · intro higher above higherSpelled higherWithin le value
    have higherRead := (read_integer_iff higher above).mpr ⟨higherSpelled, higherWithin⟩
    rw [accepts_read read "min" .gte (by decide),
      accepts_read read "max" .lte (by decide),
      accepts_read higherRead "min" .gte (by decide),
      accepts_read higherRead "max" .lte (by decide)]
    exact standing_mono le value

-- The largest unsigned integer is not the limit next to it, to which it would be rounded together with it.
theorem full_width_exact : Number.read? "18446744073709551614".toList = some (.integer 18446744073709551614) ∧
    accepts "gt" "18446744073709551614" (.uint 0xFFFFFFFFFFFFFFFF : Value 0) = true ∧
    accepts "min" " -9223372036854775807" (.int (-0x8000000000000000) : Value 0) = false ∧
    OneOrder " -9223372036854775807" (.float ⟨0xC3E0000000000000⟩ : Value 0) := by
  obtain ⟨ordered, exactIntegers⟩ := bounds_one_order (n := 0)
  have largest : IsIntegerText "18446744073709551614" 18446744073709551614 :=
    (integer_trimmed _ _).mpr (by decide)
  have smallest : IsIntegerText " -9223372036854775807" (-9223372036854775807) :=
    (integer_trimmed _ _).mpr (by decide)
  obtain ⟨read, orders, _⟩ := exactIntegers _ _ largest ⟨by decide, by decide⟩
  obtain ⟨lowRead, lowOrders, _⟩ := exactIntegers _ _ smallest ⟨by decide, by decide⟩
  refine ⟨read, ?_, ?_, ordered _ _ lowRead _⟩
  · refine (orders (.uint 0xFFFFFFFFFFFFFFFF) _ rfl ("gt", .gt) (by decide)).mpr ?_
    rw [Comparison.Relates]
    decide
  · rw [Bool.eq_false_iff, Ne, lowOrders (.int (-0x8000000000000000)) _ rfl ("min", .gte) (by decide),
      Comparison.Relates]
    decide

end Bound

end RecordRules
