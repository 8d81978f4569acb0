import RecordRules.Constraint.OfClause
import RecordRules.Value.Compare

set_option autoImplicit false

namespace RecordRules

variable {n : Nat}

mutual

def Value.fits (S : Schema n) (type : FieldType n) : Value n → Bool
  | .nil => type.isOptional
  | .bool _ => type.target = .bool
  | .int _ => type.target = .int
  | .uint _ => type.target = .uint
  | .float _ => type.target = .float
  | .str _ => type.target = .str
  | .time _ => type.target = .time
  | .seq _ => type.target = .seq
  | .record id fields => type.target = .record id && fieldsFit S (S id).fields fields

-- Fields that the record does not list read as nil, and values past the last field are never read.
def fieldsFit (S : Schema n) (declared : List (FieldDef n)) : List (Value n) → Bool
  | [] => declared.all (·.type.isOptional)
  | value :: rest =>
      match declared with
      | [] => true
      | field :: others => value.fits S field.type && fieldsFit S others rest

end

def Instance.fits (S : Schema n) (record : Instance n) : Bool :=
  fieldsFit S (S record.type).fields record.fields

theorem fields_fit_get (S : Schema n) (values : List (Value n)) (declared : List (FieldDef n))
    (fit : fieldsFit S declared values) (index : Nat) (field : FieldDef n)
    (there : declared[index]? = some field) : (values[index]?.getD .nil).fits S field.type := by
  induction values generalizing declared index with
  | nil =>
      rw [fieldsFit, List.all_eq_true] at fit
      simpa [Value.fits] using fit field (List.mem_of_getElem? there)
  | cons value rest ih =>
      cases declared with
      | nil => cases there
      | cons first others =>
          rw [fieldsFit, Bool.and_eq_true] at fit
          cases index with
          | zero =>
              obtain rfl := Option.some.inj there
              exact fit.1
          | succ index => exact ih others fit.2 index there

theorem fits_field (S : Schema n) (record : Instance n) (fit : record.fits S) (index : Nat)
    (field : FieldDef n) (declared : (S record.type).fields[index]? = some field) :
    (record.field index).fits S field.type :=
  fields_fit_get S record.fields _ fit index field declared

theorem target_record (type : FieldType n) (id : Fin n) :
    type.target = .record id ↔ type.record? = some id := by
  induction type <;> simp_all [FieldType.target, FieldType.record?]

theorem fits_record (S : Schema n) (type : FieldType n) (id : Fin n) (fields : List (Value n)) :
    (Value.record id fields).fits S type ↔
      type.record? = some id ∧ (⟨id, fields⟩ : Instance n).fits S := by
  rw [Value.fits, Bool.and_eq_true, decide_eq_true_iff, target_record]
  rfl

def spans : Schema 1 := fun id =>
  { name := "Span"
    fields := [⟨"start", .int, "", true⟩, ⟨"end", .optional .int, "gtfield=start", true⟩,
      ⟨"rest", .optional (.record id), "", true⟩]
    checks := [⟨"start", "ltfield=rest.start"⟩] }

def spanId : Fin 1 := ⟨0, Nat.one_pos⟩

def openSpan : Instance 1 := ⟨spanId, [.int 3, .nil, .record spanId [.int 5, .int 4, .nil]]⟩

example : openSpan.fits spans := by decide

def Value.fieldKind? : Value n → Option FieldKind
  | .nil => none
  | .bool _ => some .bool
  | .int _ | .uint _ | .float _ => some .number
  | .str _ => some .text
  | .time _ => some .timestamp
  | .seq _ => some .sequence
  | .record _ _ => some .record

theorem fits_kind (S : Schema n) (type : FieldType n) (value : Value n) (fit : value.fits S type) :
    value = .nil ∨ value.fieldKind? = some type.kind := by
  rw [← type.kind_target]
  cases value with
  | nil => exact .inl rfl
  | record id fields =>
      rw [Value.fits, Bool.and_eq_true, decide_eq_true_iff] at fit
      rw [fit.1]
      exact .inr rfl
  | _ =>
      rw [Value.fits, decide_eq_true_iff] at fit
      rw [fit]
      exact .inr rfl

theorem fits_link (S : Schema n) (type : FieldType n) (inner : Fin n) (nested : type.record? = some inner)
    (value : Value n) (fit : value.fits S type) :
    value = .nil ∨ ∃ fields, value = .record inner fields ∧ (⟨inner, fields⟩ : Instance n).fits S := by
  cases value with
  | nil => exact .inl rfl
  | record id fields =>
      obtain ⟨same, innerFits⟩ := (fits_record S type id fields).mp fit
      obtain rfl := Option.some.inj (same.symm.trans nested)
      exact .inr ⟨fields, rfl, innerFits⟩
  | _ =>
      have kind := (fits_kind S type _ fit).resolve_left nofun
      rw [← type.kind_target, (target_record type inner).mpr nested] at kind
      cases kind

theorem compare_same_kind (op : Comparison) (kind : FieldKind) (value other : Value n)
    (left : value.fieldKind? = some kind) (right : other.fieldKind? = some kind)
    (scalar : kind ≠ .record) (ordered : kind = .bool → op.needsOrder = false) :
    ∃ outcome, Value.compare op value other = .ok outcome := by
  cases kind with
  | record => exact absurd rfl scalar
  | bool =>
      cases value <;> cases other <;> simp_all [Value.fieldKind?, Value.compare]
  | number =>
      cases value <;> cases other <;> simp_all [Value.fieldKind?, Value.compare, Value.number?]
  | _ => cases value <;> cases other <;> simp_all [Value.fieldKind?, Value.compare]

theorem compare_nil_left (op : Comparison) (other : Value n) (set : other ≠ .nil) :
    Value.compare op .nil other = .error (.nilOperand other.kind) := by
  cases other with
  | nil => exact absurd rfl set
  | _ => rfl

theorem compare_nil_right (op : Comparison) (value : Value n) (set : value ≠ .nil) :
    Value.compare op value .nil = .error (.nilOperand value.kind) := by
  cases value with
  | nil => exact absurd rfl set
  | _ => rfl

theorem compare_fitting (S : Schema n) (op : Comparison) (left right : FieldType n)
    (admitted : op.admits left.kind right.kind) (value other : Value n) (valueFits : value.fits S left)
    (otherFits : other.fits S right) (error : CompareError)
    (failed : Value.compare op value other = .error error) :
    (value = .nil ∧ other ≠ .nil ∧ error = .nilOperand other.kind) ∨
      (value ≠ .nil ∧ other = .nil ∧ error = .nilOperand value.kind) := by
  by_cases noValue : value = .nil
  · by_cases noOther : other = .nil
    · rw [noValue, noOther] at failed
      cases failed
    · rw [noValue, compare_nil_left op other noOther] at failed
      exact .inl ⟨noValue, noOther, (Except.error.inj failed).symm⟩
  · by_cases noOther : other = .nil
    · rw [noOther, compare_nil_right op value noValue] at failed
      exact .inr ⟨noValue, noOther, (Except.error.inj failed).symm⟩
    · have valueKind := (fits_kind S left value valueFits).resolve_left noValue
      have otherKind := (fits_kind S right other otherFits).resolve_left noOther
      simp only [Comparison.admits, Bool.and_eq_true, decide_eq_true_eq, Bool.not_eq_true',
        Bool.and_eq_false_iff, decide_eq_false_iff_not] at admitted
      obtain ⟨⟨same, scalar⟩, ordered⟩ := admitted
      obtain ⟨outcome, compared⟩ := compare_same_kind op left.kind value other valueKind
        (same ▸ otherKind) scalar fun bool => ordered.resolve_left (absurd bool)
      cases compared.symm.trans failed

end RecordRules
