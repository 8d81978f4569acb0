import RecordRules.Check.Catalog
import RecordRules.Settings

set_option autoImplicit false

namespace RecordRules

structure Rulebook (n : Nat) where
  settings : Settings
  catalog : Catalog n

namespace Rulebook

variable {n : Nat}

def standard : Rulebook n := ⟨.standard, .standard⟩

def withAlias (book : Rulebook n) (name body : String) : Rulebook n :=
  if isReserved name then book
  else
    { book with
      settings := { book.settings with aliases := book.settings.aliases.insert name body } }

def withSettings (book : Rulebook n) (settings : Settings) : Rulebook n :=
  { book with settings := book.settings.merge settings }

def withRecursion (book : Rulebook n) (recurse : Bool) : Rulebook n :=
  { book with settings := { book.settings with recurseNested := recurse } }

def withFactory (book : Rulebook n) (name : String) (factory : CheckFactory n) : Rulebook n :=
  { book with catalog := (book.catalog.register name factory).1 }

def withCheck (book : Rulebook n) (name : String) (check : Check n) : Rulebook n :=
  { book with catalog := (book.catalog.registerCheck name check).1 }

end Rulebook

end RecordRules
