import RecordRules.Pattern.Charset
import RecordRules.Unicode.Binary
import RecordRules.Unicode.CaseChange

set_option autoImplicit false

namespace RecordRules.Pattern.Property

def ofCategories (categories : List Unicode.Category) : Charset :=
  .ofList (categories.map (fun category => .table category.table))

def assigned : Charset := ofCategories Unicode.Category.assigned

def alphabetic : Charset := .ofList (Unicode.alphabeticTables.map .table)

def lowercase : Charset := .union (ofCategories [.ll]) (.table Unicode.otherLowercase)

def uppercase : Charset := .union (ofCategories [.lu]) (.table Unicode.otherUppercase)

def graphemeExtend : Charset :=
  .union (ofCategories [.mn, .me]) (.table Unicode.otherGraphemeExtend)

def graphemeBase : Charset :=
  .diff assigned
    (.ofList [ofCategories [.cc, .cf, .co, .zl, .zp], graphemeExtend])

def caseIgnorable : Charset :=
  .ofList [ofCategories [.mn, .me, .cf, .lm, .sk],
    .oneOf "'.:\u00b7\u0387\u055f\u05f4\u2018\u2019\u2024\u2027",
    .oneOf "\ufe13\ufe52\ufe55\uff07\uff0e\uff1a"]

def changesWhenCasefolded : Charset :=
  .union (.diff (.table Unicode.changesWhenLowercased) (.table Unicode.lowercaseUnfolded))
    (.table Unicode.foldedUnlikeLowercase)

def changesWhenTitlecased : Charset :=
  .union (.diff (.table Unicode.changesWhenUppercased) (.table Unicode.titlecaseUnchanged))
    (.table Unicode.titlecaseOnly)

def changesWhenCasemapped : Charset :=
  .ofList [.table Unicode.changesWhenLowercased, .table Unicode.changesWhenUppercased,
    changesWhenTitlecased]

def idStart : Charset :=
  .diff
    (.ofList [ofCategories (Unicode.Category.letters ++ [Unicode.Category.nl]), .range 0x1885 0x1886,
      .range 0x2118 0x2118, .range 0x212E 0x212E, .range 0x309B 0x309C])
    (.range 0x2E2F 0x2E2F)

def idContinue : Charset :=
  .ofList [idStart, ofCategories [.mn, .mc, .nd, .pc], .oneOf "\u00b7\u0387\u19da\u30fb\uff65",
    .range 0x1369 0x1371, .range 0x200C 0x200D]

def unstable : Charset :=
  .table [⟨0x37A, 0x37A, 1⟩, ⟨0x309B, 0x309C, 1⟩, ⟨0xFC5E, 0xFC63, 1⟩, ⟨0xFDFA, 0xFDFB, 1⟩,
    ⟨0xFE70, 0xFE7E, 2⟩]

def unstableStart : Charset :=
  .union unstable (.table [⟨0xE33, 0xE33, 1⟩, ⟨0xEB3, 0xEB3, 1⟩, ⟨0xFF9E, 0xFF9F, 1⟩])

end RecordRules.Pattern.Property
