import RecordRules.Schema
import RecordRules.Text.Dump

set_option autoImplicit false

namespace RecordRules.Value

variable {n : Nat}

def dump (S : Schema n) : Value n → Dump
  | nil => .atom "Nil"
  | bool value => .tuple "Bool" [.bool value]
  | int value => .tuple "Int" [.atom (toString value.toInt)]
  | uint value => .tuple "Uint" [.nat value.toNat]
  | float value => .tuple "Float" [.atom value.debugText]
  | str value => .tuple "Str" [.text value]
  | time value => .tuple "Time" [.atom value.text]
  | seq length => .tuple "Seq" [.nat length]
  | record type _ => .tuple "Record" [.text (S.nameOf type)]

end RecordRules.Value
