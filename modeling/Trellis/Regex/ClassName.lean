import Trellis.Regex.BreakClass
import Trellis.Unicode.Age
import Trellis.Unicode.ScriptExtension
/-!
Character sets by name: the general categories, ages, scripts, break classes and binary properties of
Unicode, and the ASCII classes. Names of Unicode sets are compared without regard to case, spaces, hyphens
and underscores, and may start with `is`.
-/

namespace Trellis.ClassName

open Unicode

/-- Drop what does not count in a name. -/
def normalize (name : String) : String :=
  let cs := name.toList.map Char.toLower
  let (stripped, rest) := match cs with
    | 'i' :: 's' :: rest => (true, rest)
    | _ => (false, cs)
  let kept := rest.filter fun c => c ≠ ' ' && c ≠ '_' && c ≠ '-' && c.toNat < 0x80
  if stripped && kept = ['c'] then "isc" else String.ofList kept

/-- The categories with the names of each. -/
def categories : List (List String × List Ranges) :=
  let letters := [Category.lowercaseLetter, Category.uppercaseLetter, Category.titlecaseLetter]
  [(["lu", "uppercaseletter"], [Category.uppercaseLetter]),
   (["ll", "lowercaseletter"], [Category.lowercaseLetter]),
   (["lt", "titlecaseletter"], [Category.titlecaseLetter]),
   (["lm", "modifierletter"], [Category.modifierLetter]),
   (["lo", "otherletter"], [Category.otherLetter]),
   (["lc", "casedletter"], letters),
   (["l", "letter"], letters ++ [Category.modifierLetter, Category.otherLetter]),
   (["mn", "nonspacingmark"], [Category.nonspacingMark]),
   (["mc", "spacingmark"], [Category.spacingMark]),
   (["me", "enclosingmark"], [Category.enclosingMark]),
   (["m", "mark", "combiningmark"],
    [Category.nonspacingMark, Category.spacingMark, Category.enclosingMark]),
   (["nd", "decimalnumber", "digit"], [Category.decimalNumber]),
   (["nl", "letternumber"], [Category.letterNumber]),
   (["no", "othernumber"], [Category.otherNumber]),
   (["n", "number"], [Category.decimalNumber, Category.letterNumber, Category.otherNumber]),
   (["pc", "connectorpunctuation"], [Category.connectorPunctuation]),
   (["pd", "dashpunctuation"], [Category.dashPunctuation]),
   (["ps", "openpunctuation"], [Category.openPunctuation]),
   (["pe", "closepunctuation"], [Category.closePunctuation]),
   (["pi", "initialpunctuation"], [Category.initialPunctuation]),
   (["pf", "finalpunctuation"], [Category.finalPunctuation]),
   (["po", "otherpunctuation"], [Category.otherPunctuation]),
   (["p", "punct", "punctuation"],
    [Category.connectorPunctuation, Category.dashPunctuation, Category.openPunctuation,
     Category.closePunctuation, Category.initialPunctuation, Category.finalPunctuation,
     Category.otherPunctuation]),
   (["sm", "mathsymbol"], [Category.mathSymbol]),
   (["sc", "currencysymbol"], [Category.currencySymbol]),
   (["sk", "modifiersymbol"], [Category.modifierSymbol]),
   (["so", "othersymbol"], [Category.otherSymbol]),
   (["s", "symbol"],
    [Category.mathSymbol, Category.currencySymbol, Category.modifierSymbol,
     Category.otherSymbol]),
   (["zs", "spaceseparator"], [Category.spaceSeparator]),
   (["zl", "lineseparator"], [Category.lineSeparator]),
   (["zp", "paragraphseparator"], [Category.paragraphSeparator]),
   (["z", "separator"],
    [Category.spaceSeparator, Category.lineSeparator, Category.paragraphSeparator]),
   (["cc", "control", "cntrl"], [Category.control]),
   (["cf", "format"], [Category.format]),
   (["co", "privateuse"], [Category.privateUse])]

/-- The ranges of the category with the given name. -/
def categoryRanges (name : String) : List Ranges :=
  ((categories.find? fun entry => entry.1.contains name).map (·.2)).getD []

/-- The characters that are assigned. -/
def assigned : CharSet :=
  CharSet.unions ((["l", "m", "n", "p", "s", "z", "cc", "cf", "co"].flatMap categoryRanges).map .table)

def category? (name : String) : Option CharSet :=
  if name = "any" then some CharSet.any
  else if name = "ascii" then some (.range 0 0x7F)
  else if name = "assigned" then some assigned
  else if name = "cn" ∨ name = "unassigned" then some (.compl assigned)
  else if name = "c" ∨ name = "other" then
    some (.compl (CharSet.unions ((["l", "m", "n", "p", "s", "z"].flatMap categoryRanges).map .table)))
  else match categoryRanges name with
    | [] => none
    | ranges => some (CharSet.unions (ranges.map .table))

/-! Properties that follow from categories and other properties. -/

/-- The characters with which identifiers may start. -/
def idStart : CharSet :=
  .diff
    (CharSet.unions
      ((["l", "nl"].flatMap categoryRanges ++ [Property.otherIdStart]).map .table))
    (CharSet.unions [.table Property.patternSyntax, .table Property.patternWhiteSpace])

/-- The characters of identifiers. -/
def idContinue : CharSet :=
  .diff
    (.union idStart
      (CharSet.unions
        ((["mn", "mc", "nd", "pc"].flatMap categoryRanges ++ [Property.otherIdContinue]).map .table)))
    (CharSet.unions [.table Property.patternSyntax, .table Property.patternWhiteSpace])

/-- What is not the same identifier character in all normal forms. -/
def unstable : Ranges := Ranges.read ["37a 309b-309c fc5e-fc63 fdfa-fdfb fe70-fe7e/2"]

/-- What is an identifier character, but no start, in some normal form. -/
def unstableStart : Ranges := Ranges.read ["e33 eb3 ff9e-ff9f"]

def xidStart : CharSet := .diff idStart (.table (unstable ++ unstableStart))

def xidContinue : CharSet := .diff idContinue (.table unstable)

def graphemeBase : CharSet :=
  .diff (CharSet.unions ((["l", "m", "n", "p", "s", "zs"].flatMap categoryRanges).map .table))
    (.table Property.graphemeExtend)

/-- Digraphs of capitals, which differ from their titlecase forms. -/
def capitalDigraphs : Ranges := Ranges.read ["1c4 1c7 1ca 1f1"]

/-- What has an uppercase form but is its own titlecase form. -/
def ownTitlecase : Ranges :=
  Ranges.read
    ["1c5 1c8 1cb 1f2 10d0-10fa 10fd-10ff 1f88-1f8f 1f98-1f9f 1fa8-1faf 1fbc 1fcc 1ffc"]

def changesWhenTitlecased : CharSet :=
  .diff (.table (Property.changesWhenUppercased ++ capitalDigraphs)) (.table ownTitlecase)

/-- What is lowercase already and is folded to other characters. -/
def foldedLowercase : Ranges :=
  Ranges.read
    ["b5 df 149 17f 345 3c2 3d0-3d1 3d5-3d6 3f0-3f1 3f5 587 13f8-13fd 1c80-1c88 1e9a-1e9b",
     "1f80-1f87 1f90-1f97 1fa0-1fa7 1fb2-1fb4 1fb7 1fc2-1fc4 1fc7 1ff2-1ff4 1ff7 ab70-abbf",
     "fb00-fb06 fb13-fb17"]

def changesWhenCasefolded : CharSet :=
  .diff (.table (Property.changesWhenLowercased ++ foldedLowercase)) (.range 0x13A0 0x13F5)

def changesWhenCasemapped : CharSet :=
  CharSet.unions
    [.table Property.changesWhenLowercased, .table Property.changesWhenUppercased,
     changesWhenTitlecased]

/-- The binary properties with the names of each. -/
def properties : List (List String × CharSet) :=
  [(["alpha", "alphabetic"], .table Property.alphabetic),
   (["lower", "lowercase"], .table Property.lowercase),
   (["upper", "uppercase"], .table Property.uppercase),
   (["cased"], .table Property.cased),
   (["ci", "caseignorable"], .table Property.caseIgnorable),
   (["grext", "graphemeextend"], .table Property.graphemeExtend),
   (["math"], .table Property.math),
   (["hex", "hexdigit"], .table Property.hexDigit),
   (["ahex", "asciihexdigit"],
    CharSet.unions [.range 0x30 0x39, .range 0x41 0x46, .range 0x61 0x66]),
   (["dash"], .table Property.dash),
   (["dia", "diacritic"], .table Property.diacritic),
   (["ideo", "ideographic"], .table Property.ideographic),
   (["ids", "idstart"], idStart),
   (["idc", "idcontinue"], idContinue),
   (["xids", "xidstart"], xidStart),
   (["xidc", "xidcontinue"], xidContinue),
   (["cwl", "changeswhenlowercased"], .table Property.changesWhenLowercased),
   (["cwu", "changeswhenuppercased"], .table Property.changesWhenUppercased),
   (["cwt", "changeswhentitlecased"], changesWhenTitlecased),
   (["cwcf", "changeswhencasefolded"], changesWhenCasefolded),
   (["cwcm", "changeswhencasemapped"], changesWhenCasemapped),
   (["grbase", "graphemebase"], graphemeBase),
   (["grlink", "graphemelink"], .table Property.graphemeLink),
   (["hyphen"], .table Property.hyphen),
   (["pcm", "prependedconcatenationmark"], .table Property.prependedConcatenationMark),
   (["mcm", "modifiercombiningmark"], .table Property.modifierCombiningMark),
   (["idcompatmathstart"], .table Property.idCompatMathStart),
   (["idcompatmathcontinue"], .table Property.idCompatMathContinue),
   (["idsu", "idsunaryoperator"], .table Property.idsUnaryOperator),
   (["idsb", "idsbinaryoperator"], .table Property.idsBinaryOperator),
   (["idst", "idstrinaryoperator"], .table Property.idsTrinaryOperator),
   (["oalpha", "otheralphabetic"], .table Property.otherAlphabetic),
   (["odi", "otherdefaultignorablecodepoint"], .table Property.otherDefaultIgnorable),
   (["ogrext", "othergraphemeextend"], .table Property.otherGraphemeExtend),
   (["oidc", "otheridcontinue"], .table Property.otherIdContinue),
   (["oids", "otheridstart"], .table Property.otherIdStart),
   (["olower", "otherlowercase"], .table Property.otherLowercase),
   (["omath", "othermath"], .table Property.otherMath),
   (["oupper", "otheruppercase"], .table Property.otherUppercase),
   (["emoji"], .table Property.emoji),
   (["qmark", "quotationmark"], .table Property.quotationMark),
   (["ext", "extender"], .table Property.extender),
   (["epres", "emojipresentation"], .table Property.emojiPresentation),
   (["emod", "emojimodifier"], .table Property.emojiModifier),
   (["ebase", "emojimodifierbase"], .table Property.emojiModifierBase),
   (["ecomp", "emojicomponent"], .table Property.emojiComponent),
   (["extpict", "extendedpictographic"], .table Property.extendedPictographic),
   (["ri", "regionalindicator"], .table Property.regionalIndicator),
   (["uideo", "unifiedideograph"], .table Property.unifiedIdeograph),
   (["radical"], .table Property.radical),
   (["sd", "softdotted"], .table Property.softDotted),
   (["sterm", "sentenceterminal"], .table Property.sentenceTerminal),
   (["term", "terminalpunctuation"], .table Property.terminalPunctuation),
   (["patsyn", "patternsyntax"], .table Property.patternSyntax),
   (["patws", "patternwhitespace"], .table Property.patternWhiteSpace),
   (["bidic", "bidicontrol"], .table Property.bidiControl),
   (["bidim", "bidimirrored"], .table Property.bidiMirrored),
   (["vs", "variationselector"], .table Property.variationSelector),
   (["dep", "deprecated"], .table Property.deprecated),
   (["loe", "logicalorderexception"], .table Property.logicalOrderException),
   (["di", "defaultignorablecodepoint"], .table Property.defaultIgnorable),
   (["nchar", "noncharactercodepoint"], .table Property.noncharacter),
   (["joinc", "joincontrol"], .range 0x200C 0x200D),
   (["wspace", "whitespace", "space"], .blank)]

def property? (name : String) : Option CharSet :=
  (properties.find? fun entry => entry.1.contains name).map (·.2)

def script? (name : String) : Option CharSet := (Script.find? name).map .table

/-- The characters that are used with a script: those listed with it, and its own that are not listed. -/
def scriptExtension? (name : String) : Option CharSet := do
  let names ← Script.names? name
  let own ← script? name
  let others : CharSet := .table (ScriptExtension.usedWith (names.headD ""))
  return .union others (.diff own (.table ScriptExtension.listed))

/-- The set with a single name: a property, a category or a script, in this order. -/
def named? (text : String) : Option CharSet :=
  let name := normalize text
  (property? name).orElse fun _ => (category? name).orElse fun _ => script? name

/-- The set of the characters that have a value for a property. -/
def valued? (property value : String) : Option CharSet :=
  let property := normalize property
  let value := normalize value
  match property with
  | "gc" | "generalcategory" => category? value
  | "sc" | "script" => script? value
  | "scx" | "scriptextensions" => scriptExtension? value
  | "age" => (Age.upTo? value).map .table
  | "gcb" | "graphemeclusterbreak" => BreakClass.find? BreakClass.graphemes value
  | "wb" | "wordbreak" => BreakClass.find? BreakClass.words value
  | "sb" | "sentencebreak" => BreakClass.find? BreakClass.sentences value
  | _ => none

/-- The ASCII class with the given name. -/
def ascii? (name : String) : Option CharSet :=
  let digits := CharSet.range 0x30 0x39
  let uppers := CharSet.range 0x41 0x5A
  let lowers := CharSet.range 0x61 0x7A
  match name with
  | "alnum" => some (CharSet.unions [digits, uppers, lowers])
  | "alpha" => some (.union uppers lowers)
  | "ascii" => some (.range 0 0x7F)
  | "blank" => some (.union (.range 0x09 0x09) (.range 0x20 0x20))
  | "cntrl" => some (.union (.range 0 0x1F) (.range 0x7F 0x7F))
  | "digit" => some digits
  | "graph" => some (.range 0x21 0x7E)
  | "lower" => some lowers
  | "print" => some (.range 0x20 0x7E)
  | "punct" =>
    some (CharSet.unions
      [.range 0x21 0x2F, .range 0x3A 0x40, .range 0x5B 0x60, .range 0x7B 0x7E])
  | "space" => some CharSet.asciiBlank
  | "upper" => some uppers
  | "word" => some CharSet.asciiWord
  | "xdigit" => some (CharSet.unions [digits, .range 0x41 0x46, .range 0x61 0x66])
  | _ => none

end Trellis.ClassName
