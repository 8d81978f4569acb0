import RecordRules.Json
import RecordRules.Settings

set_option autoImplicit false

namespace RecordRules.Settings

def bool? : Json → Option Bool
  | .bool value => some value
  | _ => none

def alias? : Option String × Json → Option (String × String)
  | (some name, .string (some body)) => some (name, body)
  | _ => none

def aliases? : Json → Option Aliases
  | .object members => (members.mapM alias?).map Dictionary.ofList
  | _ => none

def member? (name : String) (members : List (Option String × Json)) : Option (Option Json) :=
  match members.filter (·.1 = some name) with
  | [] => some none
  | [(_, value)] => some (some value)
  | _ => none

def ofParts? (aliases recurseNested : Option Json) : Option Settings := do
  let aliases ← match aliases with
    | some value => aliases? value
    | none => some standard.aliases
  let recurseNested ← match recurseNested with
    | some value => bool? value
    | none => some standard.recurseNested
  return ⟨aliases, recurseNested⟩

-- A list gives the settings by position and may end early. A setting is never given twice.
def ofJson? : Json → Option Settings
  | .object members =>
      if members.all (·.1.isSome) then do
        ofParts? (← member? "aliases" members) (← member? "recurse_nested" members)
      else none
  | .array [] => ofParts? none none
  | .array [aliases] => ofParts? (some aliases) none
  | .array [aliases, recurseNested] => ofParts? (some aliases) (some recurseNested)
  | _ => none

def read? (text : String) : Option Settings := (Json.read? text).bind ofJson?

def toJson (settings : Settings) : Json :=
  .record [
    ("aliases", .record (settings.aliases.entries.map fun (name, body) => (name, .text body))),
    ("recurse_nested", .bool settings.recurseNested)]

end RecordRules.Settings
