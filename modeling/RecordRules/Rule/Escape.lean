import RecordRules.Text.Cut

set_option autoImplicit false

namespace RecordRules.Escape

def comma : List Char := ['0', 'x', '2', 'C']

def bar : List Char := ['0', 'x', '7', 'C']

-- Reads the escapes of commas first, then those of bars.
def decode (text : List Char) : List Char :=
  Text.replace bar ['|'] (Text.replace comma [','] text)

def encode : List Char → List Char
  | [] => []
  | c :: rest =>
      if c = ',' then comma ++ encode rest
      else if c = '|' then bar ++ encode rest
      else c :: encode rest

def isPlain (text : List Char) : Bool := !Text.occurs comma text && !Text.occurs bar text

example : decode "a0x2Cb0x7Cc0x2c".toList = "a,b|c0x2c".toList := by decide

example : encode "a,b|c".toList = "a0x2Cb0x7Cc".toList := by decide

end RecordRules.Escape
