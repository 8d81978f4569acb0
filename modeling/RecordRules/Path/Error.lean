set_option autoImplicit false

namespace RecordRules

inductive PathError where
  | emptySegment (path : String)
  | notFound (record segment : String)
  | unexported (record segment : String)
  | notARecord (segments : String)
deriving DecidableEq, Repr

def PathError.message : PathError → String
  | emptySegment path => s!"field path `{path}` has an empty segment"
  | notFound record segment => s!"`{record}` has no field `{segment}`"
  | unexported record segment => s!"field `{segment}` of `{record}` is not exported"
  | notARecord segments => s!"`{segments}` is not a record and cannot be traversed"

inductive ReadError where
  | nilLink (path segments : String)
  | wrongRoot (expected actual : String)
  | notARecord (segments : String)
deriving DecidableEq, Repr

def ReadError.message : ReadError → String
  | nilLink path segments => s!"nil encountered at `{segments}` while resolving `{path}`"
  | wrongRoot expected actual => s!"path resolved against `{expected}` applied to a `{actual}`"
  | notARecord segments => s!"`{segments}` does not hold a record"

end RecordRules
