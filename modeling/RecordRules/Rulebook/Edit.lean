import RecordRules.Rulebook.Basic

set_option autoImplicit false

namespace RecordRules

inductive Edit (n : Nat) where
  | addAlias (name body : String)
  | addSettings (settings : Settings)
  | setRecursion (recurse : Bool)
  | addFactory (name : String) (factory : CheckFactory n)
  | addCheck (name : String) (check : Check n)

namespace Rulebook

variable {n : Nat}

def edit (book : Rulebook n) : Edit n → Rulebook n
  | .addAlias name body => book.withAlias name body
  | .addSettings settings => book.withSettings settings
  | .setRecursion recurse => book.withRecursion recurse
  | .addFactory name factory => book.withFactory name factory
  | .addCheck name check => book.withCheck name check

def edited (edits : List (Edit n)) : Rulebook n := edits.foldl edit standard

end Rulebook

end RecordRules
