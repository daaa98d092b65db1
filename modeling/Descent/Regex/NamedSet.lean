import Descent.Text.Boundary
import Descent.Text.Edition
import Descent.Text.WritingSystem

/-!
Sets of characters that have a name in patterns: the shorthands for digits, blanks and word
characters, the classes of ASCII that are named inside brackets, and the properties of
characters. Names of properties are compared without case, blanks, hyphens and underscores.
-/
namespace Descent.Regex

open Text (CharSet Category charsOf)

structure NamedSet where
  full : CharSet
  /-- What it stands for when only ASCII counts, if it may be used then. -/
  ascii? : Option CharSet

namespace NamedSet

def asciiWordChars : CharSet :=
  CharSet.ofIntervals [(0x30, 0x39), (0x41, 0x5a), (0x5f, 0x5f), (0x61, 0x7a)]

def asciiDigits : CharSet := CharSet.interval '0' '9'

def asciiBlanks : CharSet := CharSet.ofIntervals [(0x09, 0x0d), (0x20, 0x20)]

def digits : NamedSet := ⟨charsOf [.decimalNumber], some asciiDigits⟩

def blanks : NamedSet := ⟨Text.whiteSpace, some asciiBlanks⟩

def wordChars : NamedSet := ⟨Text.wordChars, some asciiWordChars⟩

/-- The classes of ASCII characters that have a name inside brackets. -/
def asciiClass? (name : String) : Option NamedSet :=
  let set? : Option CharSet :=
    match name with
    | "alnum" => some (CharSet.ofIntervals [(0x30, 0x39), (0x41, 0x5a), (0x61, 0x7a)])
    | "alpha" => some (CharSet.ofIntervals [(0x41, 0x5a), (0x61, 0x7a)])
    | "ascii" => some (CharSet.ofIntervals [(0x00, 0x7f)])
    | "blank" => some (CharSet.ofIntervals [(0x09, 0x09), (0x20, 0x20)])
    | "cntrl" => some (CharSet.ofIntervals [(0x00, 0x1f), (0x7f, 0x7f)])
    | "digit" => some asciiDigits
    | "graph" => some (CharSet.ofIntervals [(0x21, 0x7e)])
    | "lower" => some (CharSet.ofIntervals [(0x61, 0x7a)])
    | "print" => some (CharSet.ofIntervals [(0x20, 0x7e)])
    | "punct" =>
      some (CharSet.ofIntervals [(0x21, 0x2f), (0x3a, 0x40), (0x5b, 0x60), (0x7b, 0x7e)])
    | "space" => some asciiBlanks
    | "upper" => some (CharSet.ofIntervals [(0x41, 0x5a)])
    | "word" => some asciiWordChars
    | "xdigit" => some (CharSet.ofIntervals [(0x30, 0x39), (0x41, 0x46), (0x61, 0x66)])
    | _ => none
  set?.map fun s => ⟨s, some s⟩

/-- A name as it is compared. An `is` in front does not count, unless a `c` is all that follows:
that is the name of a comment, and no category. -/
def normalName (name : List Char) : String :=
  let isFront := (name.take 2).map Char.toLower = ['i', 's']
  let kept := (if isFront then name.drop 2 else name).filter fun c =>
    c.toNat < 0x80 && c ≠ ' ' && c ≠ '_' && c ≠ '-'
  let name := String.ofList (kept.map Char.toLower)
  if isFront && name = "c" then "isc" else name

def categories? : String → Option (List Category)
  | "l" | "letter" =>
    some [.uppercaseLetter, .lowercaseLetter, .titlecaseLetter, .modifierLetter, .otherLetter]
  | "lc" | "casedletter" => some [.uppercaseLetter, .lowercaseLetter, .titlecaseLetter]
  | "lu" | "uppercaseletter" => some [.uppercaseLetter]
  | "ll" | "lowercaseletter" => some [.lowercaseLetter]
  | "lt" | "titlecaseletter" => some [.titlecaseLetter]
  | "lm" | "modifierletter" => some [.modifierLetter]
  | "lo" | "otherletter" => some [.otherLetter]
  | "m" | "mark" | "combiningmark" => some [.nonspacingMark, .spacingMark, .enclosingMark]
  | "mn" | "nonspacingmark" => some [.nonspacingMark]
  | "mc" | "spacingmark" => some [.spacingMark]
  | "me" | "enclosingmark" => some [.enclosingMark]
  | "n" | "number" => some [.decimalNumber, .letterNumber, .otherNumber]
  | "nd" | "decimalnumber" | "digit" => some [.decimalNumber]
  | "nl" | "letternumber" => some [.letterNumber]
  | "no" | "othernumber" => some [.otherNumber]
  | "p" | "punctuation" | "punct" =>
    some [.connectorPunctuation, .dashPunctuation, .openPunctuation, .closePunctuation,
      .initialPunctuation, .finalPunctuation, .otherPunctuation]
  | "pc" | "connectorpunctuation" => some [.connectorPunctuation]
  | "pd" | "dashpunctuation" => some [.dashPunctuation]
  | "ps" | "openpunctuation" => some [.openPunctuation]
  | "pe" | "closepunctuation" => some [.closePunctuation]
  | "pi" | "initialpunctuation" => some [.initialPunctuation]
  | "pf" | "finalpunctuation" => some [.finalPunctuation]
  | "po" | "otherpunctuation" => some [.otherPunctuation]
  | "s" | "symbol" => some [.mathSymbol, .currencySymbol, .modifierSymbol, .otherSymbol]
  | "sm" | "mathsymbol" => some [.mathSymbol]
  | "sc" | "currencysymbol" => some [.currencySymbol]
  | "sk" | "modifiersymbol" => some [.modifierSymbol]
  | "so" | "othersymbol" => some [.otherSymbol]
  | "z" | "separator" => some [.spaceSeparator, .lineSeparator, .paragraphSeparator]
  | "zs" | "spaceseparator" => some [.spaceSeparator]
  | "zl" | "lineseparator" => some [.lineSeparator]
  | "zp" | "paragraphseparator" => some [.paragraphSeparator]
  | "c" | "other" => some [.control, .format, .privateUse, .unassigned]
  | "cc" | "control" | "cntrl" => some [.control]
  | "cf" | "format" => some [.format]
  | "co" | "privateuse" => some [.privateUse]
  | "cn" | "unassigned" => some [.unassigned]
  | _ => none

/-- The characters of the categories that a name stands for, or of a class that all characters
are in or out of for other reasons. -/
def generalCategory? (name : String) : Option CharSet :=
  match categories? name with
  | some categories => some (charsOf categories)
  | none =>
    match name with
    | "any" => some CharSet.full
    | "ascii" => some (CharSet.ofIntervals [(0x00, 0x7f)])
    | "assigned" => some (CharSet.compl (charsOf [.unassigned]))
    | _ => none

/-- A property by one name: a category, a property that a character has or has not, or a
writing system. -/
def property? (name : List Char) : Option NamedSet :=
  let name := normalName name
  let set? := ((generalCategory? name).or (Text.property? name)).or (Text.writtenIn? name)
  set?.map fun s => ⟨s, none⟩

/-- A property by the name of what is asked about a character, and by the answer. -/
def propertyValue? (name value : List Char) : Option NamedSet :=
  let value := normalName value
  let set? :=
    match normalName name with
    | "gc" | "generalcategory" => generalCategory? value
    | "sc" | "script" => Text.writtenIn? value
    | "scx" | "scriptextensions" => Text.usedIn? value
    | "age" => Text.assignedBy? value
    | "gcb" | "graphemeclusterbreak" => Text.graphemeRole? value
    | "wb" | "wordbreak" => Text.wordRole? value
    | "sb" | "sentencebreak" => Text.sentenceRole? value
    | _ => none
  set?.map fun s => ⟨s, none⟩

end NamedSet

end Descent.Regex
