import StyleBuild.Regex.Property.Script
import StyleBuild.Regex.Word
import StyleBuild.Text.Property

/-!
# Parts of texts

A text is cut into characters as a reader sees them, into words and into sentences by rules that
look at classes of characters. These are the classes.
-/

namespace StyleBuild

namespace CharSet

/-- The characters that stand before the one they belong to. -/
def prependedTable : List String := [
  "600-605 6DD 70F 890-891 8E2 D4E 110BD 110CD 111C2-111C3 113D1 1193F 11941 11A3A",
  "11A84-11A89 11D46 11F02"]

/-- The spacing marks that stand for themselves. -/
def detachedMarks : List String := [
  "102B-102C 1038 1062-1064 1067-106D 1083 1087-108C 108F 109A-109C 1A61 1A63-1A64 AA7B",
  "AA7D 11720-11721"]

/-- The marks and modifiers that extend what is before them. -/
def extenders : CharSet := graphemeExtend.union (ofTable ["1F3FB-1F3FF"])

/-- The characters that control the text and belong to no other. -/
def controls : CharSet :=
  (withTable [.zl, .zp, .cc, .cf] ["2065 FFF0-FFF8 E0000 E0002-E001F E0080-E00FF E01F0-E0FFF"]).diff
    (((ofTable prependedTable).union (ofTable ["A D 200C-200D"])).union extenders)

/-- The class of characters that are seen as parts of one, by plain name. -/
def graphemeClass? : String → Option CharSet
  | "cr" => some (ofTable ["D"])
  | "lf" => some (ofTable ["A"])
  | "control" | "cn" => some controls
  | "extend" | "ex" => some extenders
  | "prepend" | "pp" => some (ofTable prependedTable)
  | "spacingmark" | "sm" => some ((withTable [.mc] ["E33 EB3"]).diff
      (extenders.union (ofTable detachedMarks)))
  | "l" => some (ofTable ["1100-115F A960-A97C"])
  | "v" => some (ofTable ["1160-11A7 D7B0-D7C6 16D63 16D67-16D6A"])
  | "t" => some (ofTable ["11A8-11FF D7CB-D7FB"])
  | "lv" => some (ofTable ["AC00-D788/28"])
  | "lvt" => some ((ofTable ["AC00-D7A3"]).diff (ofTable ["AC00-D788/28"]))
  | "regionalindicator" | "ri" => some (ofTable ["1F1E6-1F1FF"])
  | "zwj" => some (ofTable ["200D"])
  | _ => none

/-- The signs that numbers start with. -/
def numberSigns : List String := ["600-605 6DD 890-891 8E2 110BD 110CD"]

/-- The characters that extend a word before them. -/
def wordExtend : CharSet := extenders.union (Category.charSet [.mc])

/-- The format characters inside words. -/
def wordFormat : CharSet :=
  (Category.charSet [.cf]).diff
    ((ofTable ["200B-200D E0020-E007F"]).union (ofTable numberSigns))

/-- The letters of words in a script that runs words together. -/
def runningLetters : List String := [
  "E01-E30 E32-E33 E40-E46 E81-E82 E84 E86-E8A E8C-EA3 EA5 EA7-EB0 EB2-EB3 EBD EC0-EC4 EC6",
  "EDC-EDF 1000-102A 103F 1050-1055 105A-105D 1061 1065-1066 106E-1070 1075-1081 108E",
  "1780-17B3 17D7 17DC 1950-196D 1970-1974 1980-19AB 19B0-19C9 1A20-1A54 1AA7 A9E0-A9E4",
  "A9E6-A9EF A9FA-A9FE AA60-AA76 AA7A AA7E-AAAF AAB1 AAB5-AAB6 AAB9-AABD AAC0 AAC2",
  "AADB-AADD 11700-1171A 11740-11746"]

/-- The signs that count as letters of words. -/
def wordSigns : List String := [
  "2C2-2C5 2D2-2D7 2DE-2DF 2E5-2EB 2ED 2EF-2FF 55A-55C 55E 58A 5F3 A708-A716 A720-A721",
  "A789-A78A AB5B"]

/-- The characters of words in one of the syllabic scripts. -/
def wordSyllables : List String := [
  "3031-3035 309B-309C 30A0-30FA 30FC-30FF 31F0-31FF 32D0-32FE 3300-3357 FF66-FF9D",
  "1AFF0-1AFF3 1AFF5-1AFFB 1AFFD-1AFFE 1B000 1B120-1B122 1B155 1B164-1B167"]

/-- The letters of words in the script that has quotes within words. -/
def quotableLetters : List String :=
  ["5D0-5EA 5EF-5F2 FB1D FB1F-FB28 FB2A-FB36 FB38-FB3C FB3E FB40-FB41 FB43-FB44 FB46-FB4F"]

/-- The characters of a script, by its short name. -/
def ofScriptName (name : String) : CharSet :=
  ((Script.find? name).map Script.charSet).getD {}

/-- The letters of words. -/
def wordLetters : CharSet :=
  let others := [ofTable ((listedProperties.lookup "ideographic").getD []),
    ofTable wordSyllables, ofTable runningLetters, ofTable quotableLetters,
    ofScriptName "hira", wordExtend]
  (others.foldl diff alphabetic).union (ofTable wordSigns)

/-- The class of characters in words, by plain name. -/
def wordClass? : String → Option CharSet
  | "aletter" | "le" => some wordLetters
  | "cr" => some (ofTable ["D"])
  | "lf" => some (ofTable ["A"])
  | "newline" | "nl" => some (ofTable ["B-C 85 2028-2029"])
  | "doublequote" | "dq" => some (ofTable ["22"])
  | "singlequote" | "sq" => some (ofTable ["27"])
  | "extend" => some wordExtend
  | "extendnumlet" | "ex" => some (ofTable ["5F 202F 203F-2040 2054 FE33-FE34 FE4D-FE4F FF3F"])
  | "format" | "fo" => some wordFormat
  | "hebrewletter" | "hl" => some (ofTable quotableLetters)
  | "katakana" | "ka" => some (ofTable wordSyllables)
  | "midletter" | "ml" => some (ofTable ["3A B7 387 55F 5F4 2027 FE13 FE55 FF1A"])
  | "midnum" | "mn" => some (ofTable
      ["2C 3B 37E 589 60C-60D 66C 7F8 2044 FE10 FE14 FE50 FE54 FF0C FF1B"])
  | "midnumlet" | "mb" => some (ofTable ["2E 2018-2019 2024 FE52 FF07 FF0E"])
  | "numeric" | "nu" => some ((withTable [.nd] ["66B"]).union (ofTable numberSigns))
  | "regionalindicator" | "ri" => some (ofTable ["1F1E6-1F1FF"])
  | "wsegspace" => some (ofTable ["20 1680 2000-2006 2008-200A 205F 3000"])
  | "zwj" => some (ofTable ["200D"])
  | _ => none

/-- The characters that end a sentence or an abbreviation. -/
def abbreviationEnds : List String := ["2E 2024 FE52 FF0E"]

/-- The characters that extend the one before them in a sentence. -/
def sentenceExtend : CharSet :=
  (graphemeExtend.union (Category.charSet [.mc])).union (ofTable ["200D"])

/-- The lower-case characters of sentences. -/
def sentenceLower : CharSet :=
  (lowercase.diff graphemeExtend).diff (ofTable ["10D0-10FA 10FD-10FF"])

/-- The upper-case characters of sentences. -/
def sentenceUpper : CharSet :=
  (uppercase.union (Category.charSet [.lt])).diff (ofTable ["1C90-1CBA 1CBD-1CBF"])

/-- The class of characters in sentences, by plain name. -/
def sentenceClass? : String → Option CharSet
  | "aterm" | "at" => some (ofTable abbreviationEnds)
  | "cr" => some (ofTable ["D"])
  | "lf" => some (ofTable ["A"])
  | "close" | "cl" => some
      (withTable [.ps, .pe, .pi, .pf] ["22 27 275B-2760 2E00-2E01 2E06-2E08 2E0B 1F676-1F678"])
  | "extend" | "ex" => some sentenceExtend
  | "format" | "fo" => some ((Category.charSet [.cf]).diff
      ((ofTable ["200C-200D E0020-E007F"]).union (ofTable numberSigns)))
  | "lower" | "lo" => some sentenceLower
  | "upper" | "up" => some sentenceUpper
  | "oletter" | "le" => some (([sentenceLower, sentenceUpper, sentenceExtend].foldl diff
      alphabetic).union (ofTable ["5F3"]))
  | "numeric" | "nu" => some ((withTable [.nd] ["66B-66C"]).union (ofTable numberSigns))
  | "scontinue" | "sc" => some (ofTable [
      "2C-2D 3A-3B 37E 55D 60C-60D 7F8 1802 1808 2013-2014 3001 FE10-FE11 FE13-FE14 FE31-FE32",
      "FE50-FE51 FE54-FE55 FE58 FE63 FF0C-FF0D FF1A-FF1B FF64"])
  | "sterm" | "st" => some
      ((ofTable ((listedProperties.lookup "sentenceterminal").getD [])).diff
        (ofTable abbreviationEnds))
  | "sep" | "se" => some (ofTable ["85 2028-2029"])
  | "sp" => some (space.diff (ofTable ["A D 85 2028-2029"]))
  | _ => none

end CharSet

end StyleBuild
