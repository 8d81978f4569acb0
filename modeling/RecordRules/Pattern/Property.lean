import RecordRules.Pattern.Property.Break
import RecordRules.Pattern.Tree
import RecordRules.Unicode.Age
import RecordRules.Unicode.Emoji
import RecordRules.Unicode.ScriptExtension

set_option autoImplicit false

namespace RecordRules.Pattern.Property

def simplify (name : String) : String :=
  let strip (cs : List Char) : List Char :=
    (cs.filter (fun c => c.toNat < 128 && c != ' ' && c != '_' && c != '-')).map Char.toLower
  match name.toList with
  | i :: s :: rest =>
      if i.toLower = 'i' && s.toLower = 's' then
        let rest := strip rest
        if rest = ['c'] then "isc" else String.ofList rest
      else String.ofList (strip (i :: s :: rest))
  | cs => String.ofList (strip cs)

def category? : String → Option Charset
  | "any" => some .full
  | "assigned" => some assigned
  | "ascii" => some (.range 0 127)
  | "l" | "letter" => some (ofCategories Unicode.Category.letters)
  | "lc" | "casedletter" => some (ofCategories [.lu, .ll, .lt])
  | "lu" | "uppercaseletter" => some (ofCategories [.lu])
  | "ll" | "lowercaseletter" => some (ofCategories [.ll])
  | "lt" | "titlecaseletter" => some (ofCategories [.lt])
  | "lm" | "modifierletter" => some (ofCategories [.lm])
  | "lo" | "otherletter" => some (ofCategories [.lo])
  | "m" | "mark" | "combiningmark" => some (ofCategories Unicode.Category.marks)
  | "mn" | "nonspacingmark" => some (ofCategories [.mn])
  | "mc" | "spacingmark" => some (ofCategories [.mc])
  | "me" | "enclosingmark" => some (ofCategories [.me])
  | "n" | "number" => some (ofCategories Unicode.Category.numbers)
  | "nd" | "decimalnumber" | "digit" => some (ofCategories [.nd])
  | "nl" | "letternumber" => some (ofCategories [.nl])
  | "no" | "othernumber" => some (ofCategories [.no])
  | "p" | "punctuation" | "punct" => some (ofCategories Unicode.Category.punctuation)
  | "pc" | "connectorpunctuation" => some (ofCategories [.pc])
  | "pd" | "dashpunctuation" => some (ofCategories [.pd])
  | "ps" | "openpunctuation" => some (ofCategories [.ps])
  | "pe" | "closepunctuation" => some (ofCategories [.pe])
  | "pi" | "initialpunctuation" => some (ofCategories [.pi])
  | "pf" | "finalpunctuation" => some (ofCategories [.pf])
  | "po" | "otherpunctuation" => some (ofCategories [.po])
  | "s" | "symbol" => some (ofCategories Unicode.Category.symbols)
  | "sm" | "mathsymbol" => some (ofCategories [.sm])
  | "sc" | "currencysymbol" => some (ofCategories [.sc])
  | "sk" | "modifiersymbol" => some (ofCategories [.sk])
  | "so" | "othersymbol" => some (ofCategories [.so])
  | "z" | "separator" => some (ofCategories Unicode.Category.separators)
  | "zs" | "spaceseparator" => some (ofCategories [.zs])
  | "zl" | "lineseparator" => some (ofCategories [.zl])
  | "zp" | "paragraphseparator" => some (ofCategories [.zp])
  | "c" | "other" => some (.union (ofCategories [.cc, .cf, .co]) (.compl assigned))
  | "cc" | "control" | "cntrl" => some (ofCategories [.cc])
  | "cf" | "format" => some (ofCategories [.cf])
  | "co" | "privateuse" => some (ofCategories [.co])
  | "cn" | "unassigned" => some (.compl assigned)
  | _ => none

-- The characters that are used in a script: those that belong to it, unless the scripts in which
-- they are used are told one by one, and those that are told to be used in it.
def scriptExtensions? (name : String) : Option Charset :=
  (Unicode.scripts.find? (·.1.contains name)).map fun (names, members) =>
    let told := Unicode.scriptExtensions.filter fun (_, scripts) => names.any scripts.contains
    .union (.diff (.table members) (.table (Unicode.scriptExtensions.flatMap (·.1))))
      (.table (told.flatMap (·.1)))

def age? (name : String) : Option Charset :=
  if Unicode.ages.any (·.1.contains name) then
    let older := Unicode.ages.takeWhile (!·.1.contains name)
    (table? name Unicode.ages).map fun newest =>
      .table (older.flatMap (·.2) ++ newest)
  else none

def binary? : String → Option Charset
  | "alphabetic" | "alpha" => some alphabetic
  | "otheralphabetic" | "oalpha" => some (.table Unicode.otherAlphabetic)
  | "lowercase" | "lower" => some lowercase
  | "otherlowercase" | "olower" => some (.table Unicode.otherLowercase)
  | "uppercase" | "upper" => some uppercase
  | "otheruppercase" | "oupper" => some (.table Unicode.otherUppercase)
  | "cased" => some (.ofList [lowercase, uppercase, ofCategories [.lt]])
  | "caseignorable" | "ci" => some caseIgnorable
  | "changeswhencasefolded" | "cwcf" => some changesWhenCasefolded
  | "changeswhencasemapped" | "cwcm" => some changesWhenCasemapped
  | "changeswhenlowercased" | "cwl" => some (.table Unicode.changesWhenLowercased)
  | "changeswhentitlecased" | "cwt" => some changesWhenTitlecased
  | "changeswhenuppercased" | "cwu" => some (.table Unicode.changesWhenUppercased)
  | "graphemebase" | "grbase" => some graphemeBase
  | "graphemeextend" | "grext" => some graphemeExtend
  | "othergraphemeextend" | "ogrext" => some (.table Unicode.otherGraphemeExtend)
  | "math" => some (.union (ofCategories [.sm]) (.table Unicode.otherMath))
  | "othermath" | "omath" => some (.table Unicode.otherMath)
  | "whitespace" | "space" | "wspace" => some .space
  | "idstart" | "ids" => some idStart
  | "idcontinue" | "idc" => some idContinue
  | "xidstart" | "xids" => some (.diff idStart unstableStart)
  | "xidcontinue" | "xidc" => some (.diff idContinue unstable)
  | name => (table? name (Unicode.binaryProperties ++ Unicode.emojiProperties)).map .table

def charset? : Property → Option Charset
  | named name =>
      let name := simplify name
      (binary? name).or ((category? name).or (script? name))
  | valued name value =>
      let value := simplify value
      match simplify name with
      | "gc" | "generalcategory" => category? value
      | "sc" | "script" => script? value
      | "scx" | "scriptextensions" => scriptExtensions? value
      | "age" => age? value
      | "gcb" | "graphemeclusterbreak" => GraphemeBreak.charset? value
      | "wb" | "wordbreak" => WordBreak.charset? value
      | "sb" | "sentencebreak" => SentenceBreak.charset? value
      | _ => none

end RecordRules.Pattern.Property
