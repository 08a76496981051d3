/-
This file finds the set of characters that a property name or a script name stands for.
-/

import HouseStyle.Unicode.CharSet
import HouseStyle.Unicode.Category
import HouseStyle.Unicode.Property
import HouseStyle.Unicode.Script

namespace HouseStyle.Unicode

/-! The derived properties. Each is a union of general categories with a few further characters. -/

section Derived

open GeneralCategory Property

def letters : List Ranges :=
  [uppercaseLetter, lowercaseLetter, titlecaseLetter, modifierLetter, otherLetter]

def casedLetters : List Ranges := [uppercaseLetter, lowercaseLetter, titlecaseLetter]

def marks : List Ranges := [nonspacingMark, spacingMark, enclosingMark]

def numbers : List Ranges := [decimalNumber, letterNumber, otherNumber]

def punctuation : List Ranges :=
  [connectorPunctuation, dashPunctuation, openPunctuation, closePunctuation, initialPunctuation,
    finalPunctuation, otherPunctuation]

def symbols : List Ranges := [mathSymbol, currencySymbol, modifierSymbol, otherSymbol]

def separators : List Ranges := [spaceSeparator, lineSeparator, paragraphSeparator]

/-- The code points to which a character is assigned. -/
def assigned : CharSet :=
  CharSet.tables (letters ++ marks ++ numbers ++ punctuation ++ symbols ++ separators ++
    [control, format, privateUse])

def unassigned : CharSet := .difference .all (.union assigned (.span 0xD800 0xDFFF))

def alphabetic : CharSet := .tables (letters ++ [letterNumber, otherAlphabetic])

def lowercase : CharSet := .tables [lowercaseLetter, otherLowercase]

def uppercase : CharSet := .tables [uppercaseLetter, otherUppercase]

def cased : CharSet := .union lowercase (.union uppercase (.table titlecaseLetter))

def caseIgnorable : CharSet :=
  .tables [wordPunctuation, nonspacingMark, enclosingMark, format, modifierLetter, modifierSymbol]

def math : CharSet := .tables [mathSymbol, otherMath]

def idStart : CharSet :=
  .difference (.tables (letters ++ [letterNumber, idStartExtra])) (.table idStartMissing)

def idContinue : CharSet :=
  .union idStart
    (.tables [nonspacingMark, spacingMark, decimalNumber, connectorPunctuation, idContinueExtra])

def graphemeExtend : CharSet := .tables [enclosingMark, nonspacingMark, otherGraphemeExtend]

def graphemeBase : CharSet :=
  .difference assigned
    (.union (.tables [control, format, privateUse, lineSeparator, paragraphSeparator])
      graphemeExtend)

def whiteSpace : CharSet :=
  .anyOf [.span 9 13, .span 0x20 0x20, .span 0x85 0x85, .span 0xA0 0xA0, .span 0x1680 0x1680,
    .span 0x2000 0x200A, .span 0x2028 0x2029, .span 0x202F 0x202F, .span 0x205F 0x205F,
    .span 0x3000 0x3000]

def digits : CharSet := .table decimalNumber

/-- The characters of words: letters, marks, digits, connectors and joiners. -/
def wordCharacters : CharSet :=
  .union alphabetic (.tables (marks ++ [decimalNumber, connectorPunctuation, joinControl]))

def alphanumeric : CharSet := .union alphabetic (.tables numbers)

end Derived

namespace Naming

/-- Spaces, hyphens, underscores, the case of letters and a leading `is` do not matter in a name.
Characters outside ASCII are dropped. The name `isc` stays as it is. -/
def normalize (name : List Char) : List Char :=
  let isChar (char : Char) (letter : Char) : Bool := char.toLower == letter
  let (prefixed, body) :=
    match name with
    | first :: second :: rest =>
        if isChar first 'i' && isChar second 's' then (true, rest) else (false, name)
    | _ => (false, name)
  let plain := (body.filter fun char =>
    char.toNat < 0x80 && char ≠ ' ' && char ≠ '_' && char ≠ '-').map Char.toLower
  if prefixed && plain == ['c'] then ['i', 's', 'c'] else plain

/-- The row whose names include the given one. -/
def lookUp {value : Type} (name : List Char) (rows : List (List String × value)) : Option value :=
  (rows.find? fun row => row.1.any (·.toList == name)).map Prod.snd

open GeneralCategory in
def categories : List (List String × CharSet) :=
  [(["any"], .all),
    (["ascii"], .span 0 0x7F),
    (["assigned"], .complement unassigned),
    (["l", "letter"], .tables letters),
    (["lc", "casedletter"], .tables casedLetters),
    (["lu", "uppercaseletter"], .table uppercaseLetter),
    (["ll", "lowercaseletter"], .table lowercaseLetter),
    (["lt", "titlecaseletter"], .table titlecaseLetter),
    (["lm", "modifierletter"], .table modifierLetter),
    (["lo", "otherletter"], .table otherLetter),
    (["m", "mark", "combiningmark"], .tables marks),
    (["mn", "nonspacingmark"], .table nonspacingMark),
    (["mc", "spacingmark"], .table spacingMark),
    (["me", "enclosingmark"], .table enclosingMark),
    (["n", "number"], .tables numbers),
    (["nd", "decimalnumber", "digit"], .table decimalNumber),
    (["nl", "letternumber"], .table letterNumber),
    (["no", "othernumber"], .table otherNumber),
    (["p", "punctuation", "punct"], .tables punctuation),
    (["pc", "connectorpunctuation"], .table connectorPunctuation),
    (["pd", "dashpunctuation"], .table dashPunctuation),
    (["ps", "openpunctuation"], .table openPunctuation),
    (["pe", "closepunctuation"], .table closePunctuation),
    (["pi", "initialpunctuation"], .table initialPunctuation),
    (["pf", "finalpunctuation"], .table finalPunctuation),
    (["po", "otherpunctuation"], .table otherPunctuation),
    (["s", "symbol"], .tables symbols),
    (["sm", "mathsymbol"], .table mathSymbol),
    (["sc", "currencysymbol"], .table currencySymbol),
    (["sk", "modifiersymbol"], .table modifierSymbol),
    (["so", "othersymbol"], .table otherSymbol),
    (["z", "separator"], .tables separators),
    (["zs", "spaceseparator"], .table spaceSeparator),
    (["zl", "lineseparator"], .table lineSeparator),
    (["zp", "paragraphseparator"], .table paragraphSeparator),
    (["c", "other"], .union (.tables [control, format, privateUse]) unassigned),
    (["cc", "control", "cntrl"], .table control),
    (["cf", "format"], .table format),
    (["cn", "unassigned"], unassigned),
    (["co", "privateuse"], .table privateUse)]

def properties : List (List String × CharSet) :=
  [(["alphabetic", "alpha"], alphabetic),
    (["lowercase", "lower"], lowercase),
    (["uppercase", "upper"], uppercase),
    (["cased"], cased),
    (["caseignorable", "ci"], caseIgnorable),
    (["math"], math),
    (["idstart", "ids"], idStart),
    (["xidstart", "xids"], .difference idStart (.table Property.xidStartMissing)),
    (["idcontinue", "idc"], idContinue),
    (["xidcontinue", "xidc"], .difference idContinue (.table Property.xidContinueMissing)),
    (["graphemeextend", "grext"], graphemeExtend),
    (["graphemebase", "grbase"], graphemeBase),
    (["whitespace", "wspace", "space"], whiteSpace)] ++
  Property.tabulated.map fun (names, codes) => (names, .table codes)

def category? (name : List Char) : Option CharSet :=
  lookUp name categories

def scriptRow? (name : List Char) : Option Script :=
  Script.all.find? fun script => script.names.any (·.toList == name)

def script? (name : List Char) : Option CharSet :=
  (scriptRow? name).map fun script => .table script.codes

/-- The scripts whose characters are not bound to one language. -/
def isNeutral (script : Script) : Bool :=
  script.names.any fun name => name == "common" || name == "inherited"

/-- The characters that are used with a script: its own ones and the shared ones. A neutral script
loses the characters that other scripts share. -/
def scriptExtension? (name : List Char) : Option CharSet :=
  (scriptRow? name).map fun script =>
    if isNeutral script then
      .difference (.table script.codes) (.tables (Script.all.map (·.shared)))
    else .tables [script.codes, script.shared]

/-- The set that a single name stands for. The names `cf`, `sc` and `lc` are always general
categories. -/
def named? (name : List Char) : Option CharSet :=
  let plain := normalize name
  let property :=
    if ["cf", "sc", "lc"].any (·.toList == plain) then none else lookUp plain properties
  property <|> category? plain <|> script? plain

/-- The set that a property name with a value stands for. -/
def valued? (property value : List Char) : Option CharSet :=
  let plain := normalize value
  match String.ofList (normalize property) with
  | "gc" | "generalcategory" => category? plain
  | "sc" | "script" => script? plain
  | "scx" | "scriptextensions" => scriptExtension? plain
  | _ => none

end Naming

end HouseStyle.Unicode
