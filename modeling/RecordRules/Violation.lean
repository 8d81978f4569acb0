set_option autoImplicit false

namespace RecordRules

structure Violation where
  code : String
  message : String
  field : Option String
  params : List (String × String)
  nested : List Violation
deriving Repr

namespace Violation

def ofCode (code message : String) : Violation := ⟨code, message, none, [], []⟩

def withParam (violation : Violation) (key value : String) : Violation :=
  { violation with params := violation.params ++ [(key, value)] }

def withCode (violation : Violation) (code : String) : Violation := { violation with code }

def withField (violation : Violation) (field : String) : Violation :=
  { violation with field := some field }

def withNested (violation : Violation) (nested : List Violation) : Violation :=
  { violation with nested }

def under (violation : Violation) (outer : String) : Violation :=
  violation.withField (match violation.field with
    | some field => outer ++ "." ++ field
    | none => outer)

def param? (violation : Violation) (key : String) : Option String :=
  (violation.params.find? (·.1 = key)).map (·.2)

def required : Violation := ofCode "required" "This field is required"

def invalidFormat (expected : String) : Violation :=
  (ofCode "invalid_format" s!"Must be a valid {expected}").withParam "expected" expected

def typeMismatch (expected actual : String) : Violation :=
  ((ofCode "type_mismatch" s!"Expected a {expected} value, found {actual}").withParam
    "expected" expected).withParam "actual" actual

def paramsText (params : List (String × String)) : String :=
  if params.isEmpty then ""
  else " (params: [" ++ ", ".intercalate (params.map fun (key, value) => key ++ "=" ++ value) ++ "])"

mutual

def text : Violation → String
  | ⟨code, message, field, params, nested⟩ =>
      let place := match field with
        | some field => s!"[{field}] "
        | none => ""
      place ++ code ++ ": " ++ message ++ paramsText params ++
        (if nested.isEmpty then "" else "\n  Nested errors:" ++ nestedText 1 nested)

def nestedText (number : Nat) : List Violation → String
  | [] => ""
  | violation :: rest =>
      s!"\n    {number}. " ++ violation.text ++ nestedText (number + 1) rest

end

end Violation

abbrev Report := List Violation

namespace Report

def forField (report : Report) (field : String) : Report :=
  report.filter (fun violation => violation.field = some field)

def numbered (number : Nat) : Report → String
  | [] => ""
  | violation :: rest => s!"  {number}. {violation.text}\n" ++ numbered (number + 1) rest

def text (report : Report) : String :=
  s!"Validation failed with {report.length} error(s):\n" ++ numbered 1 report

def result {α : Type} (report : Report) (value : α) : Except Report α :=
  if report.isEmpty then .ok value else .error report

end Report

end RecordRules
