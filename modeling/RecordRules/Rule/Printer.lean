import RecordRules.Rule.Basic
import RecordRules.Rule.Escape
import RecordRules.Text.Blank

set_option autoImplicit false

namespace RecordRules

def Pair.spelling (pair : Pair) : List Char :=
  Escape.encode pair.field.toList ++ ':' :: Escape.encode pair.literal.toList

def Keyword.taking (word : Keyword) (param : List Char) : List Char := word.tag.toList ++ '=' :: param

def Keyword.listing (word : Keyword) (items : List (List Char)) : List Char :=
  word.taking ([' '].intercalate items)

namespace Clause

def spelling : Clause → List Char
  | leaf name none => name.toList
  | leaf name (some param) => name.toList ++ '=' :: Escape.encode param.toList
  | relational op target => (Keyword.relational op).taking (Escape.encode target.toList)
  | presence kind targets =>
      (Keyword.presence kind).listing (targets.map fun target => Escape.encode target.toList)
  | conditional kind pairs => (Keyword.conditional kind).listing (pairs.map Pair.spelling)

end Clause

namespace Rule

-- Which rules are read back from this form is said by `isCanonical` for a rule by itself, and by
-- `mayFollow` for two rules in a row.
def spelling : Rule → List Char
  | skip => Keyword.skip.tag.toList
  | omitEmpty => Keyword.omitEmpty.tag.toList
  | skipUnless pairs => Keyword.skipUnless.listing (pairs.map Pair.spelling)
  | clause body => body.spelling
  | anyOf branches => ['|'].intercalate (branches.map Clause.spelling)

def print (rules : List Rule) : String := String.ofList ([','].intercalate (rules.map spelling))

end Rule

def isSolid (text : List Char) : Bool := !text.any Text.isBlank && Escape.isPlain text

def isItem (text : List Char) : Bool := !text.isEmpty && isSolid text

def isListOf {α : Type} (holds : α → Bool) (items : List α) : Bool := !items.isEmpty && items.all holds

def Pair.isCanonical (pair : Pair) : Bool :=
  isItem pair.field.toList && !pair.field.toList.contains ':' && isSolid pair.literal.toList

def isLeafName (name : String) : Bool :=
  !name.toList.isEmpty && Text.trim name.toList = name.toList && !isReserved name &&
    !name.toList.any fun c => c = ',' || c = '|' || c = '='

def Clause.isCanonical : Clause → Bool
  | leaf name param =>
      isLeafName name &&
        param.all fun text => Text.trim text.toList = text.toList && Escape.isPlain text.toList
  | relational _ target => isItem target.toList
  | presence _ targets => isListOf (fun target => isItem target.toList) targets
  | conditional _ pairs => isListOf Pair.isCanonical pairs

namespace Rule

def isCanonical : Rule → Bool
  | skip | omitEmpty => true
  | skipUnless pairs => isListOf Pair.isCanonical pairs
  | clause body => body.isCanonical
  | anyOf branches => 2 ≤ branches.length && branches.all Clause.isCanonical

-- A leaf without parameter would be read as an item of the list before it. After a list of pairs it is
-- read so only where its name looks like a pair.
def mayFollow : Rule → Rule → Bool
  | clause (.presence _ _), clause (.leaf _ none) => false
  | skipUnless _, clause (.leaf name none) | clause (.conditional _ _), clause (.leaf name none) =>
      !name.toList.contains ':'
  | _, _ => true

def lookups (rule : Rule) : List (List Char) :=
  rule.spelling ::
    match rule with
    | anyOf branches => branches.map Clause.spelling
    | skip | omitEmpty | skipUnless _ | clause _ => []

end Rule

end RecordRules
