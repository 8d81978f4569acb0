import RecordRules.Dictionary

set_option autoImplicit false

namespace RecordRules

abbrev Aliases := Dictionary String

namespace Aliases

def builtin : Aliases := ⟨[("iscolor", "hexcolor|rgb|rgba|hsl|hsla")]⟩

def body? (aliases : Aliases) (name : String) : Option String :=
  (aliases.find? name).or (builtin.find? name)

end Aliases

end RecordRules
