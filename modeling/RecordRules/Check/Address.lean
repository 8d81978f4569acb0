set_option autoImplicit false

namespace RecordRules.Address

def hexValue? (c : Char) : Option Nat :=
  if '0' ≤ c && c ≤ '9' then some (c.toNat - 48)
  else if 'a' ≤ c && c ≤ 'f' then some (c.toNat - 87)
  else if 'A' ≤ c && c ≤ 'F' then some (c.toNat - 55)
  else none

def readByte (text : List Char) : Option (Nat × List Char) :=
  let digits := text.takeWhile Char.isDigit
  let value := digits.foldl (fun value digit => 10 * value + (digit.toNat - 48)) 0
  if digits.isEmpty || 3 < digits.length || 255 < value then none
  else if digits.head? = some '0' && digits.length ≠ 1 then none
  else some (value, text.dropWhile Char.isDigit)

def readChar (expected : Char) : List Char → Option (List Char)
  | c :: rest => if c = expected then some rest else none
  | [] => none

def afterV4? (text : List Char) : Option (List Char) := do
  let (_, rest) ← readByte text
  let (_, rest) ← readByte (← readChar '.' rest)
  let (_, rest) ← readByte (← readChar '.' rest)
  let (_, rest) ← readByte (← readChar '.' rest)
  return rest

def afterGroup? (text : List Char) : Option (List Char) :=
  let digits := text.takeWhile (fun c => (hexValue? c).isSome)
  if digits.isEmpty || 4 < digits.length then none else some (text.drop digits.length)

structure Groups where
  count : Nat
  endsInV4 : Bool
  rest : List Char

-- Reads groups as long as there are any, up to a limit; `first` says that no colon is due. An
-- address of the fourth version takes the place of two groups and ends the list.
def readGroups : (limit : Nat) → (first : Bool) → List Char → Groups
  | 0, _, text => ⟨0, false, text⟩
  | limit + 1, first, text =>
      match if first then some text else readChar ':' text with
      | none => ⟨0, false, text⟩
      | some start =>
          match if limit = 0 then none else afterV4? start with
          | some rest => ⟨2, true, rest⟩
          | none =>
              match afterGroup? start with
              | none => ⟨0, false, text⟩
              | some rest =>
                  let groups := readGroups limit false rest
                  ⟨groups.count + 1, groups.endsInV4, groups.rest⟩

def isV4 (text : List Char) : Bool := afterV4? text = some []

def isV6 (text : List Char) : Bool :=
  let head := readGroups 8 true text
  if head.count = 8 then head.rest.isEmpty
  else if head.endsInV4 then false
  else
    match head.rest with
    | ':' :: ':' :: rest => (readGroups (7 - head.count) true rest).rest.isEmpty
    | _ => false

example : isV6 "::ffff:10.0.0.1".toList = true := by decide

example : isV6 "1:2:3:4:5:6:7::".toList = true := by decide

example : isV4 "10.0.0.01".toList = false := by decide

end RecordRules.Address
