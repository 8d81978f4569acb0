set_option autoImplicit false

namespace RecordRules

-- A string is `none` when its escapes leave a surrogate unpaired: such a string is well written but
-- spells no text. A number is kept as it is written, and an object keeps the order and the repetitions
-- of its members.
inductive Json where
  | null
  | bool (value : Bool)
  | number (literal : String)
  | string (value : Option String)
  | array (items : List Json)
  | object (members : List (Option String × Json))
deriving Repr

namespace Json

def text (value : String) : Json := string (some value)

def ofInt (value : Int) : Json := number (toString value)

def record (members : List (String × Json)) : Json :=
  object (members.map (fun member => (some member.1, member.2)))

def hexDigit (n : Nat) : Char :=
  if n < 10 then Char.ofNat (48 + n) else Char.ofNat (87 + n)

def escapeChar (c : Char) : List Char :=
  if c = '"' then ['\\', '"']
  else if c = '\\' then ['\\', '\\']
  else if c.toNat = 8 then ['\\', 'b']
  else if c.toNat = 9 then ['\\', 't']
  else if c.toNat = 10 then ['\\', 'n']
  else if c.toNat = 12 then ['\\', 'f']
  else if c.toNat = 13 then ['\\', 'r']
  else if c.toNat < 32 then ['\\', 'u', '0', '0', hexDigit (c.toNat / 16), hexDigit (c.toNat % 16)]
  else [c]

def quote (value : String) : String :=
  "\"" ++ String.ofList (value.toList.flatMap escapeChar) ++ "\""

mutual

def render : Json → String
  | null => "null"
  | bool value => if value then "true" else "false"
  | number literal => literal
  | string value => quote (value.getD "\ufffd")
  | array items => "[" ++ ",".intercalate (renderItems items) ++ "]"
  | object members => "\x7b" ++ ",".intercalate (renderMembers members) ++ "\x7d"

def renderItems : List Json → List String
  | [] => []
  | item :: rest => item.render :: renderItems rest

def renderMembers : List (Option String × Json) → List String
  | [] => []
  | (name, value) :: rest =>
      (quote (name.getD "\ufffd") ++ ":" ++ value.render) :: renderMembers rest

end

def isSpace (c : Char) : Bool := c = ' ' || c = '\n' || c = '\t' || c = '\r'

def skipSpace (input : List Char) : List Char := input.dropWhile isSpace

def hexValue? (c : Char) : Option Nat :=
  if '0' ≤ c && c ≤ '9' then some (c.toNat - 48)
  else if 'a' ≤ c && c ≤ 'f' then some (c.toNat - 87)
  else if 'A' ≤ c && c ≤ 'F' then some (c.toNat - 55)
  else none

def readUnit : List Char → Option (Nat × List Char)
  | a :: b :: c :: d :: rest => do
      let (a, b, c, d) := (← hexValue? a, ← hexValue? b, ← hexValue? c, ← hexValue? d)
      return (((a * 16 + b) * 16 + c) * 16 + d, rest)
  | _ => none

def readEscape : Char → Option Char
  | '"' => some '"'
  | '\\' => some '\\'
  | '/' => some '/'
  | 'b' => some '\x08'
  | 'f' => some '\x0c'
  | 'n' => some '\n'
  | 'r' => some '\r'
  | 't' => some '\t'
  | _ => none

-- The characters of a string after its opening quote, and what follows the closing one. A high
-- surrogate pairs with a low one that is escaped right after it.
def readChars : Nat → List Char → Option (Option (List Char) × List Char)
  | 0, _ => none
  | _, [] => none
  | _ + 1, '"' :: rest => some (some [], rest)
  | fuel + 1, '\\' :: 'u' :: rest => do
      let (unit, rest) ← readUnit rest
      if unit < 0xD800 || 0xE000 ≤ unit then
        let (tail, rest) ← readChars fuel rest
        return (tail.map (Char.ofNat unit :: ·), rest)
      else
        match rest with
        | '\\' :: 'u' :: after => do
            let (low, after) ← readUnit after
            if unit < 0xDC00 && 0xDC00 ≤ low && low < 0xE000 then
              let (tail, rest) ← readChars fuel after
              let paired := Char.ofNat (0x10000 + (unit - 0xD800) * 0x400 + (low - 0xDC00))
              return (tail.map (paired :: ·), rest)
            else
              let (_, rest) ← readChars fuel rest
              return (none, rest)
        | _ =>
            let (_, rest) ← readChars fuel rest
            return (none, rest)
  | fuel + 1, '\\' :: c :: rest => do
      let c ← readEscape c
      let (tail, rest) ← readChars fuel rest
      return (tail.map (c :: ·), rest)
  | fuel + 1, c :: rest =>
      if c = '\\' || c.toNat < 32 then none
      else do
        let (tail, rest) ← readChars fuel rest
        return (tail.map (c :: ·), rest)

def readText (input : List Char) : Option (Option String × List Char) := do
  let (chars, rest) ← readChars (input.length + 1) input
  return (chars.map String.ofList, rest)

def digits (input : List Char) : List Char × List Char :=
  (input.takeWhile Char.isDigit, input.dropWhile Char.isDigit)

def readNumber (input : List Char) : Option (String × List Char) := do
  let (sign, rest) := match input with
    | '-' :: rest => (['-'], rest)
    | rest => ([], rest)
  let (whole, rest) := digits rest
  if whole.isEmpty || (whole.head? = some '0' && whole.length ≠ 1) then none
  let (fraction, rest) ← match rest with
    | '.' :: rest =>
        let (places, rest) := digits rest
        if places.isEmpty then none else some ('.' :: places, rest)
    | rest => some ([], rest)
  let (exponent, rest) ← match rest with
    | e :: rest =>
        if e = 'e' || e = 'E' then
          let (expSign, rest) := match rest with
            | '+' :: rest => (['+'], rest)
            | '-' :: rest => (['-'], rest)
            | rest => ([], rest)
          let (places, rest) := digits rest
          if places.isEmpty then none else some (e :: expSign ++ places, rest)
        else some ([], e :: rest)
    | [] => some ([], [])
  return (String.ofList (sign ++ whole ++ fraction ++ exponent), rest)

mutual

def readValue : Nat → List Char → Option (Json × List Char)
  | 0, _ => none
  | fuel + 1, input =>
      match skipSpace input with
      | 'n' :: 'u' :: 'l' :: 'l' :: rest => some (null, rest)
      | 't' :: 'r' :: 'u' :: 'e' :: rest => some (bool true, rest)
      | 'f' :: 'a' :: 'l' :: 's' :: 'e' :: rest => some (bool false, rest)
      | '"' :: rest => (readText rest).map (fun (value, rest) => (string value, rest))
      | '[' :: rest =>
          match skipSpace rest with
          | ']' :: rest => some (array [], rest)
          | rest => (readItems fuel rest).map (fun (items, rest) => (array items, rest))
      | '\x7b' :: rest =>
          match skipSpace rest with
          | '\x7d' :: rest => some (object [], rest)
          | rest => (readMembers fuel rest).map (fun (members, rest) => (object members, rest))
      | rest => (readNumber rest).map (fun (literal, rest) => (number literal, rest))

def readItems : Nat → List Char → Option (List Json × List Char)
  | 0, _ => none
  | fuel + 1, input => do
      let (item, rest) ← readValue fuel input
      match skipSpace rest with
      | ']' :: rest => return ([item], rest)
      | ',' :: rest =>
          let (items, rest) ← readItems fuel rest
          return (item :: items, rest)
      | _ => none

def readMembers : Nat → List Char → Option (List (Option String × Json) × List Char)
  | 0, _ => none
  | fuel + 1, input => do
      match skipSpace input with
      | '"' :: rest =>
          let (name, rest) ← readText rest
          match skipSpace rest with
          | ':' :: rest =>
              let (value, rest) ← readValue fuel rest
              match skipSpace rest with
              | '\x7d' :: rest => return ([(name, value)], rest)
              | ',' :: rest =>
                  let (members, rest) ← readMembers fuel rest
                  return ((name, value) :: members, rest)
              | _ => none
          | _ => none
      | _ => none

end

def read? (input : String) : Option Json := do
  let chars := input.toList
  let (value, rest) ← readValue (2 * chars.length + 2) chars
  if (skipSpace rest).isEmpty then some value else none

def find? (name : String) : Json → Option Json
  | object members => (members.find? (·.1 = some name)).map (·.2)
  | _ => none

end Json

end RecordRules
