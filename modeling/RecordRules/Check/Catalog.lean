import RecordRules.Check.Bound
import RecordRules.Check.Format
import RecordRules.Check.Literal
import RecordRules.Dictionary
import RecordRules.Pattern.Machine.OfShape
import RecordRules.Rule.Keyword
import RecordRules.Text.Dump

set_option autoImplicit false

namespace RecordRules

abbrev Catalog (n : Nat) := Dictionary (CheckFactory n)

namespace Catalog

variable {n : Nat}

def regexp (param : String) : Except RuleError (Check n) :=
  match Pattern.read? param with
  | some pattern =>
      .ok (Check.ofText pattern.isMatch
        ((Violation.invalidFormat "pattern match").withParam "pattern" param))
  | none => .error (.invalidParameter "regexp" param "bad pattern")

def bound (name : String) (op : Comparison) : String × CheckFactory n :=
  (name, Check.withParam name fun param => (Bound.read name op param).map Bound.check)

def plain (name : String) (check : Check n) : String × CheckFactory n :=
  (name, Check.fixed name check)

def taking (name : String) (build : String → Check n) : String × CheckFactory n :=
  (name, Check.withParam name fun param => .ok (build param))

def format (name : String) (pattern : Pattern) (expected : String) : String × CheckFactory n :=
  plain name (Check.format pattern expected)

def builtins : List (String × CheckFactory n) := [
  plain "required" Check.required,
  plain "isdefault" Check.isDefault,
  plain "boolean" Check.boolean,
  taking "eq" Check.equal,
  taking "ne" Check.notEqual,
  taking "oneof" Check.oneOf,
  format "hexcolor" Format.hexColor "hex color",
  format "rgb" Format.rgb "rgb color",
  format "rgba" Format.rgba "rgba color",
  format "hsl" Format.hsl "hsl color",
  format "hsla" Format.hsla "hsla color",
  format "email" Format.email "email address",
  format "url" Format.url "url",
  format "uuid" Format.uuid "uuid",
  plain "alpha" (Check.letters Format.alpha "alpha" "String must contain only letters"),
  plain "alphanum"
    (Check.letters Format.alphanumeric "alphanum" "String must contain only letters and numbers"),
  plain "numeric" (Check.letters Format.numeric "numeric" "String must be a number"),
  plain "lowercase"
    (Check.ofText Format.isLowercase (.ofCode "lowercase" "String must be lowercase")),
  plain "uppercase"
    (Check.ofText Format.isUppercase (.ofCode "uppercase" "String must be uppercase")),
  plain "ip"
    (Check.address (fun text => Address.isV4 text || Address.isV6 text) "ip address"),
  plain "ipv4" (Check.address Address.isV4 "ipv4 address"),
  plain "ipv6" (Check.address Address.isV6 "ipv6 address"),
  taking "contains" Check.contains,
  taking "excludes" Check.excludes,
  taking "startswith" Check.startsWith,
  taking "endswith" Check.endsWith,
  ("regexp", Check.withParam "regexp" regexp),
  bound "min" .gte,
  bound "max" .lte,
  bound "len" .eq,
  bound "gt" .gt,
  bound "gte" .gte,
  bound "lt" .lt,
  bound "lte" .lte]

def standard : Catalog n := .ofList builtins

def admitsName (name : String) : Bool :=
  !isReserved name && !name.isEmpty && !name.toList.any (fun c => c = '|' || c = ',' || c = '=')

def register (catalog : Catalog n) (name : String) (factory : CheckFactory n) : Catalog n × Bool :=
  if admitsName name then (catalog.insert name factory, true) else (catalog, false)

def registerCheck (catalog : Catalog n) (name : String) (check : Check n) : Catalog n × Bool :=
  catalog.register name (Check.fixed name check)

def build (catalog : Catalog n) (name : String) (param : Option String) :
    Except RuleError (Check n) :=
  match catalog.find? name with
  | some factory => factory param
  | none => .error (.unknownRule name)

def dump (catalog : Catalog n) : Dump :=
  .struct "LeafRegistry" [("rules", .list (catalog.names.map .text))] false

end Catalog

end RecordRules
