import RecordRules.Unicode.Category.Letter
import RecordRules.Unicode.Category.Mark
import RecordRules.Unicode.Category.Numeral
import RecordRules.Unicode.Category.Other
import RecordRules.Unicode.Category.Punctuation
import RecordRules.Unicode.Category.Symbol

set_option autoImplicit false

namespace RecordRules.Unicode

inductive Category where
  | lu | ll | lt | lm | lo
  | mn | mc | me
  | nd | nl | no
  | pc | pd | ps | pe | pi | pf | po
  | sm | sc | sk | so
  | zs | zl | zp
  | cc | cf | co
deriving DecidableEq, Repr

namespace Category

def table : Category → List Stretch
  | lu => uppercaseLetter
  | ll => lowercaseLetter
  | lt => titlecaseLetter
  | lm => modifierLetter
  | lo => otherLetter
  | mn => nonspacingMark
  | mc => spacingMark
  | me => enclosingMark
  | nd => decimalNumber
  | nl => letterNumber
  | no => otherNumber
  | pc => connectorPunctuation
  | pd => dashPunctuation
  | ps => openPunctuation
  | pe => closePunctuation
  | pi => initialPunctuation
  | pf => finalPunctuation
  | po => otherPunctuation
  | sm => mathSymbol
  | sc => currencySymbol
  | sk => modifierSymbol
  | so => otherSymbol
  | zs => spaceSeparator
  | zl => lineSeparator
  | zp => paragraphSeparator
  | cc => control
  | cf => format
  | co => privateUse

def letters : List Category := [lu, ll, lt, lm, lo]

def marks : List Category := [mn, mc, me]

def numbers : List Category := [nd, nl, no]

def punctuation : List Category := [pc, pd, ps, pe, pi, pf, po]

def symbols : List Category := [sm, sc, sk, so]

def separators : List Category := [zs, zl, zp]

def assigned : List Category :=
  letters ++ marks ++ numbers ++ punctuation ++ symbols ++ separators ++ [cc, cf, co]

end Category

def hasCategory (categories : List Category) (point : Nat) : Bool :=
  categories.any (fun category => inTable category.table point)

end RecordRules.Unicode
