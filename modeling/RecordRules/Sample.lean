import RecordRules.Storage.Basic

set_option autoImplicit false

namespace RecordRules.Sample

abbrev count : Nat := 9

abbrev contactId : Fin count := 1
abbrev nodeId : Fin count := 3
abbrev brokenId : Fin count := 6

def field (name : String) (storage : Storage count) (rules : String) : StoredField count :=
  ⟨name, storage, rules, true⟩

def hidden (name : String) (storage : Storage count) (rules : String) : StoredField count :=
  ⟨name, storage, rules, false⟩

def text : Storage count := .scalar .text

def contact : Storage count := .record contactId

def linkedContact : Storage count := .link (.optional (.link contact))

def records : List (StoredRecord count) := [
  { name := "Account"
    fields := [
      field "handle" text "required,alphanum,min=3,max=16",
      field "email" text "omitempty,email",
      field "color" text "omitempty,hexcolor|rgb",
      field "age" (.scalar .int64) "gte=0,lte=150",
      field "referrer" text "required_with=email,nefield=handle"]
    checks := [] },
  { name := "Contact"
    fields := [field "email" text "required"]
    checks := [] },
  { name := "Company"
    fields := [
      field "name" text "required",
      field "contact" contact "",
      field "backup" (.optional contact) "",
      hidden "private" (.optional contact) "",
      field "skipped" contact "-"]
    checks := [] },
  { name := "Node"
    fields := [
      field "label" text "required",
      field "next" (.optional (.link (.record nodeId))) ""]
    checks := [] },
  { name := "Order"
    fields := [
      field "start" (.scalar .time) "required",
      field "end" (.optional (.scalar .time)) "gtefield=start",
      field "small" (.scalar .int8) "ltfield=big",
      field "big" (.scalar .uint64) "",
      field "ratio" (.scalar .single) "ltefield=big,gt=-1.5",
      field "tags" (.scalar .collection) "max=3",
      field "seen" (.scalar .collection) "gtfield=tags|len=0",
      field "flag" (.optional (.scalar .bool)) "eqfield=other",
      field "other" (.scalar .bool) "",
      hidden "secret" (.link text) "omitempty,excluded_with=flag",
      field "contact" linkedContact ""]
    checks := [⟨"contact.email", "email"⟩, ⟨"tags", "ltefield=seen"⟩] },
  { name := "Order2"
    fields := [
      field "label" text "",
      field "contact" linkedContact "",
      field "twice" (.optional (.optional contact)) "",
      field "count" (.optional (.scalar .uint64)) "required_if=label:a,max=10"]
    checks := [
      ⟨"contact.email", "email,nefield=label"⟩,
      ⟨"twice.email", "required_with=contact.email,label"⟩,
      ⟨"label", "startswith=a"⟩] },
  { name := "Broken"
    fields := [field "value" text "required,,min=1"]
    checks := [] },
  { name := "Holder"
    fields := [field "name" text "required", field "inner" (.record brokenId) ""]
    checks := [] },
  { name := "Bare"
    fields := []
    checks := [] }]

def declarations : Declarations count := fun id => records.get id

end RecordRules.Sample
