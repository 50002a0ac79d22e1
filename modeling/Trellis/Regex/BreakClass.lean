import Trellis.Regex.CharSet
import Trellis.Unicode.Script
/-!
The classes of characters by which text is broken into graphemes, words and sentences, by name. Most follow
from the category, the script and the properties of a character; a few characters are listed.
-/

namespace Trellis.BreakClass

open Unicode

/-- A set with its names, of which the first is the short one. -/
abbrev Named := List String × CharSet

/-- A set written as the text of a table. -/
def listed (text : String) : CharSet := .table (Ranges.read [text])

def script (name : String) : CharSet := .table ((Script.find? name).getD #[])

/-- A set without the members of others. -/
def without (set : CharSet) (others : List CharSet) : CharSet := .diff set (CharSet.unions others)

def joiner : CharSet := .range 0x200D 0x200D

def spacingMark : CharSet := .table Category.spacingMark

def graphemeExtend : CharSet := .table Property.graphemeExtend

/-- Marks and other characters that belong to the character before them. -/
def mark : CharSet := .union graphemeExtend spacingMark

/-- Classes that mean the same for all kinds of text. -/
def shared : List Named :=
  [(["cr"], .range 0x0D 0x0D), (["lf"], .range 0x0A 0x0A)]

def sharedOfClusters : List Named :=
  shared ++ [(["zwj"], joiner), (["ri", "regionalindicator"], .table Property.regionalIndicator)]

/-! Graphemes. -/

def clusterExtend : CharSet := .union graphemeExtend (.table Property.emojiModifier)

def clusterControl : CharSet :=
  without
    (CharSet.unions
      [.table Category.control, .table Category.format, .table Category.lineSeparator,
       .table Category.paragraphSeparator,
       listed "2065 fff0-fff8 e0000 e0002-e001f e0080-e00ff e01f0-e0fff"])
    [graphemeExtend, joiner, .table Property.prependedConcatenationMark, .range 0x0A 0x0A,
     .range 0x0D 0x0D]

def clusterSpacingMark : CharSet :=
  .union (listed "e33 eb3")
    (without spacingMark
      [clusterExtend,
       listed ("102b-102c 1038 1062-1064 1067-106d 1083 1087-108c 108f 109a-109c 1a61 " ++
         "1a63-1a64 aa7b aa7d 11720-11721")])

def clusterPrepend : CharSet :=
  .union (.table Property.prependedConcatenationMark)
    (listed ("d4e 111c2-111c3 113d1 1193f 11941 11a3a 11a84-11a89 11d46 11f02"))

/-- Hangul syllables without a final consonant. -/
def openSyllable : CharSet := listed "ac00-d788/1c"

def graphemes : List Named :=
  sharedOfClusters ++
  [(["cn", "control"], clusterControl),
   (["ex", "extend"], clusterExtend),
   (["pp", "prepend"], clusterPrepend),
   (["sm", "spacingmark"], clusterSpacingMark),
   (["l"], listed "1100-115f a960-a97c"),
   (["v"], listed "1160-11a7 16d63 16d67-16d6a d7b0-d7c6"),
   (["t"], listed "11a8-11ff d7cb-d7fb"),
   (["lv"], openSyllable),
   (["lvt"], .diff (listed "ac00-d7a3") openSyllable)]

/-! Words. -/

def wordExtend : CharSet :=
  .diff (.union mark (.table Property.emojiModifier)) joiner

def katakana : CharSet := .union (script "kana") (listed "3031-3035 309b-309c 30a0 30fc ff70")

def hebrewLetter : CharSet := .inter (script "hebr") (.table Category.otherLetter)

/-- Letters of scripts that set spaces between words, and signs that are used as letters. -/
def wordLetter : CharSet :=
  .union
    (listed ("b8 2c2-2c5 2d2-2d7 2de-2df 2e5-2eb 2ed 2ef-2ff 55a-55c 55e 58a 5f3 70f a708-a716 " ++
      "a720-a721 a789-a78a ab5b"))
    (without (.table Property.alphabetic)
      ([.table Property.ideographic, katakana, hebrewLetter, wordExtend, listed "aa80-aadf"] ++
        (["hira", "thai", "laoo", "mymr", "khmr", "tale", "talu", "lana", "ahom"].map script)))

def wordNumeric : CharSet :=
  .union (.table Category.decimalNumber)
    (listed "600-605 66b 6dd 890-891 8e2 19da 110bd 110cd")

def wordFormat : CharSet :=
  listed ("ad 61c 180e 200e-200f 202a-202e 2060-2064 2066-206f feff fff9-fffb 13430-1343f " ++
    "1bca0-1bca3 1d173-1d17a e0001")

def words : List Named :=
  sharedOfClusters ++
  [(["nl", "newline"], listed "b-c 85 2028-2029"),
   (["extend"], wordExtend),
   (["fo", "format"], wordFormat),
   (["ka", "katakana"], katakana),
   (["hl", "hebrewletter"], hebrewLetter),
   (["le", "aletter"], wordLetter),
   (["sq", "singlequote"], .range 0x27 0x27),
   (["dq", "doublequote"], .range 0x22 0x22),
   (["mb", "midnumlet"], listed "2e 2018-2019 2024 fe52 ff07 ff0e"),
   (["ml", "midletter"], listed "3a b7 387 55f 5f4 2027 fe13 fe55 ff1a"),
   (["mn", "midnum"], listed "2c 3b 37e 589 60c-60d 66c 7f8 2044 fe50 fe54 ff0c ff1b"),
   (["nu", "numeric"], wordNumeric),
   (["ex", "extendnumlet"], .union (.table Category.connectorPunctuation) (listed "202f")),
   (["wsegspace"], listed "20 1680 2000-2006 2008-200a 205f 3000")]

/-! Sentences. -/

/-- Full stops, which may also end an abbreviation. -/
def fullStop : CharSet := listed "2e 2024 fe52 ff0e"

def sentenceExtend : CharSet := .union mark joiner

def sentenceLower : CharSet :=
  without (.table Property.lowercase) [graphemeExtend, listed "10d0-10fa 10fd-10ff"]

def sentenceUpper : CharSet :=
  .diff (.union (.table Property.uppercase) (.table Category.titlecaseLetter))
    (listed "1c90-1cba 1cbd-1cbf")

def sentenceLetter : CharSet :=
  .union (listed "5f3")
    (without (.table Property.alphabetic) [sentenceLower, sentenceUpper, sentenceExtend])

def sentences : List Named :=
  shared ++
  [(["ex", "extend"], sentenceExtend),
   (["se", "sep"], listed "85 2028-2029"),
   (["fo", "format"], .union wordFormat (listed "70f 200b")),
   (["sp"], .diff .blank (listed "a d 85 2028-2029")),
   (["lo", "lower"], sentenceLower),
   (["up", "upper"], sentenceUpper),
   (["le", "oletter"], sentenceLetter),
   (["nu", "numeric"], .union wordNumeric (listed "66c")),
   (["at", "aterm"], fullStop),
   (["st", "sterm"], .diff (.table Property.sentenceTerminal) fullStop),
   (["cl", "close"],
    CharSet.unions
      [.table Category.openPunctuation, .table Category.closePunctuation,
       .table Category.initialPunctuation, .table Category.finalPunctuation,
       listed "22 27 275b-2760 2e00-2e01 2e06-2e08 2e0b 1f676-1f678"]),
   (["sc", "scontinue"],
    listed ("2c-2d 3a-3b 37e 55d 60c-60d 7f8 1802 1808 2013-2014 3001 fe10-fe11 fe13-fe14 " ++
      "fe31-fe32 fe50-fe51 fe54-fe55 fe58 fe63 ff0c-ff0d ff1a-ff1b ff64"))]

/-- The set with the given name. -/
def find? (sets : List Named) (name : String) : Option CharSet :=
  (sets.find? fun entry => entry.1.contains name).map (·.2)

end Trellis.BreakClass
