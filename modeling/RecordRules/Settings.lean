import RecordRules.Rule.Aliases

set_option autoImplicit false

namespace RecordRules

structure Settings where
  aliases : Aliases
  recurseNested : Bool
deriving DecidableEq, Repr

namespace Settings

def standard : Settings := ⟨.empty, true⟩

def merge (older newer : Settings) : Settings :=
  ⟨older.aliases.insertAll newer.aliases.entries, newer.recurseNested⟩

end Settings

end RecordRules
