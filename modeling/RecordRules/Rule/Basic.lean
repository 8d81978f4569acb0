import RecordRules.Rule.Keyword

set_option autoImplicit false

namespace RecordRules

structure Pair where
  field : String
  literal : String
deriving DecidableEq, Repr

inductive Clause where
  | leaf (name : String) (param : Option String)
  | relational (op : Comparison) (target : String)
  | presence (kind : Presence) (targets : List String)
  | conditional (kind : Conditional) (pairs : List Pair)
deriving DecidableEq, Repr

inductive Rule where
  | skip
  | omitEmpty
  | skipUnless (pairs : List Pair)
  | clause (body : Clause)
  | anyOf (branches : List Clause)
deriving DecidableEq, Repr

def Clause.tag : Clause → String
  | leaf name _ => name
  | relational op _ => op.fieldTag
  | presence kind _ => kind.tag
  | conditional kind _ => kind.tag

namespace Rule

def tag : Rule → String
  | skip => Keyword.skip.tag
  | omitEmpty => Keyword.omitEmpty.tag
  | skipUnless _ => Keyword.skipUnless.tag
  | clause body => body.tag
  | anyOf branches => "|".intercalate (branches.map Clause.tag)

def isGate : Rule → Bool
  | skip | omitEmpty | skipUnless _ => true
  | clause _ | anyOf _ => false

end Rule

end RecordRules
