import RecordRules.Comparison

set_option autoImplicit false

namespace RecordRules

-- A rule that asks for the anchor to be set, or to be empty, depending on which targets are set. It
-- fires when the targets are in the watched state, all of them or at least one.
structure Presence where
  requires : Bool
  watchesSet : Bool
  needsAll : Bool
deriving DecidableEq, Repr

namespace Presence

def all : List Presence :=
  [⟨true, true, false⟩, ⟨true, true, true⟩, ⟨true, false, false⟩, ⟨true, false, true⟩,
    ⟨false, true, false⟩, ⟨false, true, true⟩, ⟨false, false, false⟩, ⟨false, false, true⟩]

def tag : Presence → String
  | ⟨true, true, false⟩ => "required_with"
  | ⟨true, true, true⟩ => "required_with_all"
  | ⟨true, false, false⟩ => "required_without"
  | ⟨true, false, true⟩ => "required_without_all"
  | ⟨false, true, false⟩ => "excluded_with"
  | ⟨false, true, true⟩ => "excluded_with_all"
  | ⟨false, false, false⟩ => "excluded_without"
  | ⟨false, false, true⟩ => "excluded_without_all"

def ofTag? (text : String) : Option Presence := all.find? (·.tag = text)

def triggered (kind : Presence) (targetsSet : List Bool) : Bool :=
  if kind.needsAll then targetsSet.all (· == kind.watchesSet)
  else targetsSet.any (· == kind.watchesSet)

end Presence

inductive Conditional where
  | requiredIf | requiredUnless
deriving DecidableEq, Repr

namespace Conditional

def all : List Conditional := [requiredIf, requiredUnless]

def tag : Conditional → String
  | requiredIf => "required_if"
  | requiredUnless => "required_unless"

def ofTag? (text : String) : Option Conditional := all.find? (·.tag = text)

end Conditional

def Comparison.fieldTag : Comparison → String
  | eq => "eqfield"
  | ne => "nefield"
  | gt => "gtfield"
  | gte => "gtefield"
  | lt => "ltfield"
  | lte => "ltefield"

inductive Keyword where
  | skip | omitEmpty | skipUnless
  | relational (op : Comparison)
  | presence (kind : Presence)
  | conditional (kind : Conditional)
deriving DecidableEq, Repr

namespace Keyword

def all : List Keyword :=
  [skip, omitEmpty, skipUnless] ++ Comparison.all.map relational ++ Presence.all.map presence ++
    Conditional.all.map conditional

def tag : Keyword → String
  | skip => "-"
  | omitEmpty => "omitempty"
  | skipUnless => "skip_unless"
  | relational op => op.fieldTag
  | presence kind => kind.tag
  | conditional kind => kind.tag

def ofTag? (text : String) : Option Keyword := all.find? (·.tag = text)

theorem mem_all (word : Keyword) : word ∈ all := by
  rcases word with _ | _ | _ | op | ⟨requires, watchesSet, needsAll⟩ | kind
  · decide
  · decide
  · decide
  · cases op <;> decide
  · cases requires <;> cases watchesSet <;> cases needsAll <;> decide
  · cases kind <;> decide

@[simp] theorem of_tag_tag (word : Keyword) : ofTag? word.tag = some word := by
  rcases word with _ | _ | _ | op | ⟨requires, watchesSet, needsAll⟩ | kind
  · decide
  · decide
  · decide
  · cases op <;> decide
  · cases requires <;> cases watchesSet <;> cases needsAll <;> decide
  · cases kind <;> decide

theorem tag_of_tag {text : String} {word : Keyword} (found : ofTag? text = some word) :
    word.tag = text := by
  simpa using List.find?_some found

end Keyword

def isReserved (name : String) : Bool := (Keyword.ofTag? name).isSome

end RecordRules
