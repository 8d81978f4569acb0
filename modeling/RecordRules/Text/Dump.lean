import RecordRules.Text.Quoted

set_option autoImplicit false

namespace RecordRules

inductive Dump where
  | atom (shown : String)
  | text (value : String)
  | tuple (name : String) (items : List Dump)
  | list (items : List Dump)
  | map (entries : List (String × Dump))
  | struct (name : String) (fields : List (String × Dump)) (complete : Bool)

namespace Dump

mutual

def render : Dump → String
  | atom shown => shown
  | text value => Text.quoted value
  | tuple name items => name ++ "(" ++ ", ".intercalate (renderItems items) ++ ")"
  | list items => "[" ++ ", ".intercalate (renderItems items) ++ "]"
  | map entries => "\x7b" ++ ", ".intercalate (renderEntries entries) ++ "\x7d"
  | struct name fields complete =>
      name ++ " \x7b " ++ ", ".intercalate (renderFields fields ++ if complete then [] else [".."]) ++
        " \x7d"

def renderItems : List Dump → List String
  | [] => []
  | item :: rest => item.render :: renderItems rest

def renderEntries : List (String × Dump) → List String
  | [] => []
  | (key, value) :: rest => (Text.quoted key ++ ": " ++ value.render) :: renderEntries rest

def renderFields : List (String × Dump) → List String
  | [] => []
  | (name, value) :: rest => (name ++ ": " ++ value.render) :: renderFields rest

end

def nat (n : Nat) : Dump := atom (toString n)

def bool (b : Bool) : Dump := atom (if b then "true" else "false")

def option : Option Dump → Dump
  | some value => tuple "Some" [value]
  | none => atom "None"

end Dump

end RecordRules
