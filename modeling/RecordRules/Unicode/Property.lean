import RecordRules.Unicode.Category
import RecordRules.Unicode.OtherProperties
import RecordRules.Unicode.Recent

set_option autoImplicit false

namespace RecordRules.Unicode

def alphabeticTables : List (List Stretch) :=
  (Category.letters ++ [Category.nl]).map Category.table ++ [otherAlphabetic]

def isAlphabetic (c : Char) : Bool :=
  (recentAlphabetic :: alphabeticTables).any (inTable · c.toNat)

-- The letter of the voiced pharyngeal fricative, a small letter once, has no case any more.
def isLowercase (c : Char) : Bool :=
  c ≠ '\u0295' &&
    [Category.ll.table, otherLowercase, recentLowercase].any (inTable · c.toNat)

def isUppercase (c : Char) : Bool :=
  [Category.lu.table, otherUppercase, recentUppercase].any (inTable · c.toNat)

def isNumeric (c : Char) : Bool :=
  hasCategory Category.numbers c.toNat || inTable recentNumeric c.toNat

-- Characters that attach to the one before them. The two halfwidth sound marks do so too, but they
-- take a place of their own.
def attaches (c : Char) : Bool :=
  c ≠ '\uff9e' && c ≠ '\uff9f' &&
    (hasCategory [.mn, .me] c.toNat || inTable otherGraphemeExtend c.toNat ||
      inTable recentGraphemeExtend c.toNat)

def isFiller (c : Char) : Bool := "\u115f\u1160\u3164\uffa0".toList.contains c

def isPrintable (c : Char) : Bool :=
  c = ' ' ||
    (!isFiller c &&
      (hasCategory (Category.letters ++ Category.marks ++ Category.numbers ++
          Category.punctuation ++ Category.symbols) c.toNat ||
        inTable recentCharacters c.toNat))

def wordTables : List (List Stretch) :=
  alphabeticTables ++ (Category.marks ++ [Category.nd, Category.pc]).map Category.table ++
    [[⟨0x200C, 0x200D, 1⟩]]

end RecordRules.Unicode
