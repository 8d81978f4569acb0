import RecordRules.Unicode.Property

set_option autoImplicit false

namespace RecordRules

inductive Charset where
  | range (first last : Nat)
  | table (stretches : List Unicode.Stretch)
  | union (a b : Charset)
  | inter (a b : Charset)
  | compl (a : Charset)
deriving DecidableEq

namespace Charset

def containsPoint : Charset → Nat → Bool
  | range first last, point => first ≤ point && point ≤ last
  | table stretches, point => Unicode.inTable stretches point
  | union a b, point => a.containsPoint point || b.containsPoint point
  | inter a b, point => a.containsPoint point && b.containsPoint point
  | compl a, point => !a.containsPoint point

def contains (set : Charset) (c : Char) : Bool := set.containsPoint c.toNat

def empty : Charset := range 1 0

def full : Charset := range 0 0x10FFFF

def single (c : Char) : Charset := range c.toNat c.toNat

def chars (first last : Char) : Charset := range first.toNat last.toNat

def ofList (sets : List Charset) : Charset := sets.foldr union empty

def diff (a b : Charset) : Charset := inter a (compl b)

def oneOf (text : String) : Charset := ofList (text.toList.map single)

def digit : Charset := table Unicode.Category.nd.table

def space : Charset :=
  ofList [range 9 13, range 0x20 0x20, range 0x85 0x85, range 0xA0 0xA0, range 0x1680 0x1680,
    range 0x2000 0x200A, range 0x2028 0x2029, range 0x202F 0x202F, range 0x205F 0x205F,
    range 0x3000 0x3000]

def word : Charset := ofList (Unicode.wordTables.map table)

def asciiDigit : Charset := chars '0' '9'

def asciiLower : Charset := chars 'a' 'z'

def asciiUpper : Charset := chars 'A' 'Z'

def asciiLetter : Charset := union asciiLower asciiUpper

def asciiSpace : Charset := union (range 9 13) (single ' ')

def asciiWord : Charset := ofList [asciiDigit, asciiLetter, single '_']

def hexDigit : Charset := ofList [asciiDigit, chars 'a' 'f', chars 'A' 'F']

end Charset

end RecordRules
