import RecordRules.Proofs.Conformance
import RecordRules.Proofs.Widening
import RecordRules.Sample
import RecordRules.Storage.Datum

set_option autoImplicit false

namespace RecordRules

variable {n : Nat}

inductive Meaning (n : Nat) where
  | truth (value : Bool)
  | integer (value : Int)
  | number (value : Quantity)
  | text (value : String)
  | moment (value : Moment)
  | size (length : Nat)
  | record (type : Fin n)

def Value.meaning? : Value n → Option (Meaning n)
  | .nil => none
  | .bool value => some (.truth value)
  | .int value => some (.integer value.toInt)
  | .uint value => some (.integer value.toNat)
  | .float value => some (.number (WordLayout.double.read value.bits.toNat))
  | .str value => some (.text value)
  | .time value => some (.moment value)
  | .seq length => some (.size length)
  | .record type _ => some (.record type)

def Scalar.meaning : (kind : Scalar) → kind.Content → Meaning n
  | .bool, content => .truth content
  | .int8, content => .integer content.toInt
  | .int16, content => .integer content.toInt
  | .int32, content => .integer content.toInt
  | .int64, content => .integer content.toInt
  | .uint8, content => .integer content.toNat
  | .uint16, content => .integer content.toNat
  | .uint32, content => .integer content.toNat
  | .uint64, content => .integer content.toNat
  | .single, content => .number (WordLayout.single.read content.toNat)
  | .double, content => .number (WordLayout.double.read content.bits.toNat)
  | .text, content => .text content
  | .time, content => .moment content
  | .collection, content => .size content

namespace Datum

variable {D : Declarations n}

def meaning? {storage : Storage n} : Datum D storage → Option (Meaning n)
  | .scalar kind content => some (kind.meaning content)
  | .record id _ => some (.record id)
  | .unset _ => none
  | .set _ datum => datum.meaning?
  | .link _ datum => datum.meaning?

def isUnset {storage : Storage n} : Datum D storage → Bool
  | .scalar _ _ => false
  | .record _ _ => false
  | .unset _ => true
  | .set _ datum => datum.isUnset
  | .link _ datum => datum.isUnset

end Datum

theorem meaning_eq_none (value : Value n) : value.meaning? = none ↔ value = .nil := by
  cases value <;> simp [Value.meaning?]

theorem scalar_meaning (kind : Scalar) (content : kind.Content) :
    (kind.value content : Value n).meaning? = some (kind.meaning content) := by
  cases kind with
  | int8 => exact congrArg (fun value => some (Meaning.integer value)) content.toInt_toInt64
  | int16 => exact congrArg (fun value => some (Meaning.integer value)) content.toInt_toInt64
  | int32 => exact congrArg (fun value => some (Meaning.integer value)) content.toInt_toInt64
  | single => exact congrArg (fun value => some (Meaning.number value)) (Binary64.read_of_single content)
  | _ => rfl

theorem datum_meaning {D : Declarations n} {storage : Storage n} (datum : Datum D storage) :
    datum.value.meaning? = datum.meaning? :=
  match datum with
  | .scalar kind content => scalar_meaning kind content
  | .record _ _ => rfl
  | .unset _ => rfl
  | .set _ datum => datum_meaning datum
  | .link _ datum => datum_meaning datum

theorem datum_unset {D : Declarations n} {storage : Storage n} (datum : Datum D storage) :
    datum.meaning? = none ↔ datum.isUnset = true :=
  match datum with
  | .scalar _ _ => by simp [Datum.meaning?, Datum.isUnset]
  | .record _ _ => by simp [Datum.meaning?, Datum.isUnset]
  | .unset _ => by simp [Datum.meaning?, Datum.isUnset]
  | .set _ datum => datum_unset datum
  | .link _ datum => datum_unset datum

theorem datum_nil {D : Declarations n} {storage : Storage n} (datum : Datum D storage) :
    datum.value = .nil ↔ datum.isUnset = true := by
  rw [← meaning_eq_none, datum_meaning, datum_unset]

theorem fits_optional (S : Schema n) (type : FieldType n) (value : Value n) (fit : value.fits S type) :
    value.fits S (.optional type) := by
  cases value with
  | nil => rfl
  | _ => exact fit

theorem scalar_fits (S : Schema n) (kind : Scalar) (content : kind.Content) :
    (kind.value content : Value n).fits S (Storage.scalarType kind) := by
  cases kind <;> simp [Scalar.value, Value.fits, Storage.scalarType, FieldType.target]

theorem schema_types (D : Declarations n) (id : Fin n) :
    (D.schema id).fields.map FieldDef.type = (D.storages id).map Storage.type := by
  simp [Declarations.schema, Declarations.storages]

mutual

theorem datum_fits {D : Declarations n} {storage : Storage n} (datum : Datum D storage) :
    datum.value.fits D.schema storage.type :=
  match datum with
  | .scalar kind content => scalar_fits D.schema kind content
  | .record id fields => by
      rw [Datum.value, Value.fits, Bool.and_eq_true]
      exact ⟨decide_eq_true rfl, data_fit fields _ (schema_types D id)⟩
  | .unset _ => rfl
  | .set _ datum => fits_optional D.schema _ _ (datum_fits datum)
  | .link _ datum => datum_fits datum

theorem data_fit {D : Declarations n} {storages : List (Storage n)} (data : Data D storages)
    (declared : List (FieldDef n)) (types : declared.map FieldDef.type = storages.map Storage.type) :
    fieldsFit D.schema declared data.values :=
  match data with
  | .nil => by
      rw [List.map_eq_nil_iff.mp types]
      rfl
  | .cons storage rest datum data => by
      obtain ⟨first, others, rfl, type, later⟩ := List.map_eq_cons_iff.mp types
      rw [Data.values, fieldsFit, Bool.and_eq_true, type]
      exact ⟨datum_fits datum, data_fit data others later⟩

end

theorem data_instance_fits (D : Declarations n) (id : Fin n) (data : Data D (D.storages id)) :
    data.toInstance.fits D.schema :=
  data_fit data _ (schema_types D id)

namespace Data

variable {D : Declarations n}

def get? {storages : List (Storage n)} : Data D storages → Nat → Option ((storage : Storage n) × Datum D storage)
  | .nil, _ => none
  | .cons storage _ datum _, 0 => some ⟨storage, datum⟩
  | .cons _ _ _ data, index + 1 => data.get? index

theorem get_values {storages : List (Storage n)} (data : Data D storages) (index : Nat) :
    data.values[index]? = (data.get? index).map fun entry => entry.2.value :=
  match data, index with
  | .nil, _ => rfl
  | .cons _ _ _ _, 0 => rfl
  | .cons _ _ _ data, index + 1 => get_values data index

theorem get_storage {storages : List (Storage n)} (data : Data D storages) (index : Nat) :
    (data.get? index).map Sigma.fst = storages[index]? :=
  match data, index with
  | .nil, _ => rfl
  | .cons _ _ _ _, 0 => rfl
  | .cons _ _ _ data, index + 1 => get_storage data index

end Data

theorem stored_data_fits (D : Declarations n) :
    (∀ (storage : Storage n) (datum : Datum D storage),
      datum.value.fits D.schema storage.type ∧ datum.value.meaning? = datum.meaning? ∧
      (datum.value = .nil ↔ datum.isUnset = true) ∧
      (datum.isUnset = true → storage.type.isOptional = true)) ∧
    ∀ (id : Fin n) (data : Data D (D.storages id)) (index : Nat),
      data.toInstance.field index = ((data.get? index).map fun entry => entry.2.value).getD .nil ∧
      (data.get? index).map Sigma.fst = (D.storages id)[index]? ∧
      (∀ field, (D.schema id).fields[index]? = some field →
        (data.toInstance.field index).fits D.schema field.type) ∧
      ((D.schema id).fields.length ≤ index → data.toInstance.field index = .nil) := by
  refine ⟨fun storage datum => ⟨datum_fits datum, datum_meaning datum, datum_nil datum, fun unset => ?_⟩,
    fun id data index => ?_⟩
  · have fit := datum_fits datum
    rwa [(datum_nil datum).mpr unset, Value.fits] at fit
  · have read : data.toInstance.field index = ((data.get? index).map fun entry => entry.2.value).getD .nil := by
      rw [← Data.get_values]
      rfl
    refine ⟨read, Data.get_storage data index, fun field declared => ?_, fun past => ?_⟩
    · exact fits_field D.schema data.toInstance (data_instance_fits D id data) index field declared
    · have count : (D.schema id).fields.length = (D.storages id).length := by
        simpa using congrArg List.length (schema_types D id)
      have nothing : data.get? index = none := by
        rw [← Option.map_eq_none_iff (f := Sigma.fst), Data.get_storage]
        exact List.getElem?_eq_none (count ▸ past)
      rw [read, nothing]
      rfl

theorem order_in_part_fits :
    let D := Sample.declarations
    let contact : Datum D Sample.contact := .record Sample.contactId (.cons _ _ (.scalar .text "a@b.cd") .nil)
    let twice : Datum D (.optional (.optional Sample.contact)) := .set _ (.unset _)
    let order : Data D (D.storages 5) :=
      .cons _ _ (.scalar .text "a") (.cons _ _ (.link _ (.set _ (.link _ contact)))
        (.cons _ _ twice (.cons _ _ (.set _ (.scalar .uint64 7)) .nil)))
    let ratio : Datum D (.scalar .single) := .scalar .single 0xBFC00000
    (twice.isUnset = true ∧ twice.value = .nil) ∧
    ratio.value.meaning? = some (.number (.finite true (3 / 2))) ∧
    ((D.schema 5).fields[1]? = some ⟨"contact", .optional (.record Sample.contactId), "", true⟩ ∧
      (order.toInstance.field 1).fits D.schema (.optional (.record Sample.contactId))) ∧
    ((D.schema 5).fields.length ≤ 4 ∧ order.toInstance.field 4 = .nil) := by
  intro D contact twice order ratio
  have agrees := stored_data_fits D
  have read : ratio.meaning? = some (.number (.finite true (3 / 2))) := by
    have fields : ratio.meaning? = some (.number (WordLayout.single.quantity true 127 0x400000)) := rfl
    rw [fields]
    norm_num [WordLayout.quantity, WordLayout.single, WordLayout.bias]
  have declared : (D.schema 5).fields[1]? = some ⟨"contact", .optional (.record Sample.contactId), "", true⟩ := rfl
  refine ⟨⟨rfl, (agrees.1 _ twice).2.2.1.mpr rfl⟩, (agrees.1 _ ratio).2.1.trans read, ⟨declared, ?_⟩,
    by decide, ?_⟩
  · exact (agrees.2 5 order 1).2.2.1 _ declared
  · exact (agrees.2 5 order 4).2.2.2 (by decide)

end RecordRules
