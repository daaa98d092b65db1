import Descent.Text.Property

/-!
What characters do at the borders of the units that a text divides into: the characters that
readers see, words, and sentences. A role is found by its long or short name; characters that
have no part in this have no role. Of version 16 of the character standard.
-/
namespace Descent.Text

open CharSet

/-- Marks that belong to the character before them. -/
def attached : CharSet := union graphemeExtend (charsOf [.spacingMark])

/-- Syllables of two letters; one of every twenty-eight. -/
def openSyllables : CharSet := ofTable ["AC00-D788/1C"]

def syllables : CharSet := ofTable ["AC00-D7A3"]

/-- Roles at the borders of the characters that readers see. -/
def graphemeRole? : String → Option CharSet
  | "cr" => some (single '\r')
  | "lf" => some (single '\n')
  | "control" | "cn" =>
    some (ofTable
      ["0-9 B-C E-1F 7F-9F AD 61C 180E 200B 200E-200F 2028-202E 2060-206F FEFF FFF0-FFFB",
       "13430-1343F 1BCA0-1BCA3 1D173-1D17A E0000-E001F E0080-E00FF E01F0-E0FFF"])
  | "extend" | "ex" => some (union graphemeExtend emojiModifier)
  | "l" => some (ofTable ["1100-115F A960-A97C"])
  | "v" => some (ofTable ["1160-11A7 D7B0-D7C6 16D63 16D67-16D6A"])
  | "t" => some (ofTable ["11A8-11FF D7CB-D7FB"])
  | "lv" => some openSyllables
  | "lvt" => some (diff syllables openSyllables)
  | "prepend" | "pp" =>
    some (union prependedMarks
      (ofTable ["D4E 111C2-111C3 113D1 1193F 11941 11A3A 11A84-11A89 11D46 11F02"]))
  | "regionalindicator" | "ri" => some regionalIndicators
  | "spacingmark" | "sm" =>
    some (union (ofTable ["E33 EB3"])
      (diff (charsOf [.spacingMark])
        (union graphemeExtend
          (ofTable
            ["102B-102C 1038 1062-1064 1067-106D 1083 1087-108C 108F 109A-109C 1A61",
             "1A63-1A64 AA7B AA7D 11720-11721"]))))
  | "zwj" => some (ofTable ["200D"])
  | _ => none

def hebrewLetters : CharSet :=
  ofTable
    ["5D0-5EA 5EF-5F2 FB1D FB1F-FB28 FB2A-FB36 FB38-FB3C FB3E FB40-FB41 FB43-FB44 FB46-FB4F"]

def katakana : CharSet :=
  ofTable
    ["3031-3035 309B-309C 30A0-30FA 30FC-30FF 31F0-31FF 32D0-32FE 3300-3357 FF66-FF9D",
     "1AFF0-1AFF3 1AFF5-1AFFB 1AFFD-1AFFE 1B000 1B120-1B122 1B155 1B164-1B167"]

def hiragana : CharSet := ofTable ["3041-3096 309D-309F 1B001-1B11F 1B132 1B150-1B152"]

/-- Letters of systems that put no mark between words. -/
def unspacedLetters : CharSet :=
  ofTable
    ["E01-E30 E32-E33 E40-E46 E81-E82 E84 E86-E8A E8C-EA3 EA5 EA7-EB0 EB2-EB3 EBD EC0-EC4 EC6",
     "EDC-EDF 1000-102A 103F 1050-1055 105A-105D 1061 1065-1066 106E-1070 1075-1081 108E",
     "1780-17B3 17D7 17DC 1950-196D 1970-1974 1980-19AB 19B0-19C9 1A20-1A54 1AA7 A9E0-A9E4",
     "A9E6-A9EF A9FA-A9FE AA60-AA76 AA7A AA7E-AAAF AAB1 AAB5-AAB6 AAB9-AABD AAC0 AAC2",
     "AADB-AADD 11700-1171A 11740-11746"]

/-- Signs inside words that are no letters. -/
def wordSigns : CharSet :=
  ofTable
    ["B8 2C2-2C5 2D2-2D7 2DE-2DF 2E5-2EB 2ED 2EF-2FF 55A-55C 55E 58A 5F3 70F A708-A716",
     "A720-A721 A789-A78A AB5B"]

def passiveControls : CharSet :=
  ofTable
    ["AD 61C 180E 200E-200F 202A-202E 2060-2064 2066-206F FEFF FFF9-FFFB 13430-1343F",
     "1BCA0-1BCA3 1D173-1D17A E0001"]

/-- Signs inside numbers, and digits, that are no decimal numbers by category. -/
def numberSigns : CharSet := ofTable ["600-605 66B 6DD 890-891 8E2 19DA 110BD 110CD"]

def wordRole? : String → Option CharSet
  | "aletter" | "le" =>
    some (diff (union alphabetic wordSigns)
      (unionAll [ideographic, attached, hebrewLetters, katakana, hiragana, unspacedLetters]))
  | "cr" => some (single '\r')
  | "doublequote" | "dq" => some (single '"')
  | "extend" => some (union attached emojiModifier)
  | "extendnumlet" | "ex" => some (union (charsOf [.connectorPunctuation]) (ofTable ["202F"]))
  | "format" | "fo" => some passiveControls
  | "hebrewletter" | "hl" => some hebrewLetters
  | "katakana" | "ka" => some katakana
  | "lf" => some (single '\n')
  | "midletter" | "ml" => some (ofTable ["3A B7 387 55F 5F4 2027 FE13 FE55 FF1A"])
  | "midnum" | "mn" =>
    some (ofTable ["2C 3B 37E 589 60C-60D 66C 7F8 2044 FE50 FE54 FF0C FF1B"])
  | "midnumlet" | "mb" => some (ofTable ["2E 2018-2019 2024 FE52 FF07 FF0E"])
  | "newline" | "nl" => some (ofTable ["B-C 85 2028-2029"])
  | "numeric" | "nu" => some (union (charsOf [.decimalNumber]) numberSigns)
  | "regionalindicator" | "ri" => some regionalIndicators
  | "singlequote" | "sq" => some (single '\x27')
  | "wsegspace" => some (diff (charsOf [.spaceSeparator]) (ofTable ["A0 2007 202F"]))
  | "zwj" => some (ofTable ["200D"])
  | _ => none

/-- Small letters; those of a system that begins no sentence with a capital do not count. -/
def sentenceLower : CharSet :=
  diff lowercase (union graphemeExtend (ofTable ["10D0-10FA 10FD-10FF"]))

def sentenceUpper : CharSet :=
  diff (union uppercase (charsOf [.titlecaseLetter])) (ofTable ["1C90-1CBA 1CBD-1CBF"])

/-- Full stops, which need not end a sentence. -/
def fullStops : CharSet := ofTable ["2E 2024 FE52 FF0E"]

def sentenceRole? : String → Option CharSet
  | "aterm" | "at" => some fullStops
  | "close" | "cl" =>
    some (diff
      (unionAll [quotationMarks,
        charsOf [.openPunctuation, .closePunctuation, .initialPunctuation, .finalPunctuation],
        ofTable ["275B-2760 2E00-2E01 2E06-2E08 2E0B 1F676-1F678"]])
      (ofTable ["FF02 FF07"]))
  | "cr" => some (single '\r')
  | "extend" | "ex" => some (union attached (ofTable ["200D"]))
  | "format" | "fo" => some (union passiveControls (ofTable ["70F 200B"]))
  | "lf" => some (single '\n')
  | "lower" | "lo" => some sentenceLower
  | "numeric" | "nu" =>
    some (unionAll [charsOf [.decimalNumber], numberSigns, ofTable ["66C"]])
  | "oletter" | "le" =>
    some (union (ofTable ["5F3"])
      (diff alphabetic (unionAll [attached, sentenceLower, sentenceUpper])))
  | "scontinue" | "sc" =>
    some (ofTable
      ["2C-2D 3A-3B 37E 55D 60C-60D 7F8 1802 1808 2013-2014 3001 FE10-FE11 FE13-FE14 FE31-FE32",
       "FE50-FE51 FE54-FE55 FE58 FE63 FF0C-FF0D FF1A-FF1B FF64"])
  | "sep" | "se" => some (ofTable ["85 2028-2029"])
  | "sp" => some (diff whiteSpace (ofTable ["A D 85 2028-2029"]))
  | "sterm" | "st" => some (diff sentenceTerminals fullStops)
  | "upper" | "up" => some sentenceUpper
  | _ => none

end Descent.Text
