import Descent.Regex.Phrase
import Descent.Text.Newcomers

/-!
Reading the notation of regular expressions: literals and escapes, the dot, bracketed classes
with set operations, line and word assertions, numbered and named groups, flags, and greedy and
lazy repetition. Anything else, such as references to groups and looking around, is refused, and
so is a pattern with too many levels. The bound that the recursion counts down is a multiple of
the length of the text, and every second step at least reads a character.
-/
namespace Descent.Regex

open Text (CharSet hexValue? hexNumber?)

/-- What is left of a pattern, and what was read so far. -/
structure Reading where
  rest : List Char
  extended : Bool
  groups : Nat
  names : List (List Char)

abbrev Reader := StateT Reading Option

namespace Reader

def refuse {α : Type} : Reader α := fun _ => none

def require (condition : Bool) : Reader Unit := if condition then pure () else refuse

def orRefuse {α : Type} : Option α → Reader α
  | some a => pure a
  | none => refuse

def extended : Reader Bool := return (← get).extended

def setExtended (value : Bool) : Reader Unit := modify fun r => { r with extended := value }

def rest : Reader (List Char) := return (← get).rest

def setRest (cs : List Char) : Reader Unit := modify fun r => { r with rest := cs }

def peek? : Reader (Option Char) := return (← rest).head?

/-- Drops blanks and comments. A comment ends with its line. -/
def dropComments : Bool → List Char → List Char
  | _, [] => []
  | true, c :: cs => dropComments (c ≠ '\n') cs
  | false, c :: cs =>
    if Text.isBlank c then dropComments false cs
    else if c = '#' then dropComments true cs
    else c :: cs

/-- In extended patterns, moves to the next character that stands for something. -/
def skipBlanks : Reader Unit := do
  if ← extended then setRest (dropComments false (← rest))

def next : Reader Char := do
  match ← rest with
  | [] => refuse
  | c :: cs =>
    setRest cs
    return c

/-- The next character, and the blanks behind it. -/
def step : Reader Char := do
  let c ← next
  skipBlanks
  return c

def expect (c : Char) : Reader Unit := do require ((← next) = c)

def accept (text : List Char) : Reader Bool := do
  let cs ← rest
  if text.isPrefixOf cs then
    setRest (cs.drop text.length)
    return true
  else return false

def upTo (stop : Char) : Reader (List Char) := do
  let text := (← rest).takeWhile (· ≠ stop)
  setRest ((← rest).dropWhile (· ≠ stop))
  expect stop
  return text

/-- The characters up to a closing brace, which is read too; blanks among them do not count. -/
def untilBrace : Nat → Reader (List Char)
  | 0 => refuse
  | n + 1 => do
    let c ← next
    if c = '\x7d' then return []
    skipBlanks
    return c :: (← untilBrace n)

def braced : Reader (List Char) := do
  skipBlanks
  untilBrace ((← rest).length + 1)

def steps : Nat → Reader (List Char)
  | 0 => return []
  | n + 1 => do
    let c ← step
    return c :: (← steps n)

/-- The character with the code point that digits in base sixteen write. -/
def charOfHex (digits : List Char) : Reader Char := do
  let n ← orRefuse (hexNumber? digits)
  require n.isValidChar
  return Char.ofNat n

/-- A code point: so many digits, or any number of them in braces. -/
def hexEscape (count : Nat) : Reader Phrase := do
  skipBlanks
  if ← accept ['\x7b'] then
    let c ← charOfHex (← braced)
    skipBlanks
    return .char c false
  else return .char (← charOfHex (← steps count)) (count = 2)

def metaChars : List Char :=
  ['\\', '.', '+', '*', '?', '(', ')', '|', '[', ']', '\x7b', '\x7d', '^', '$', '#', '&', '-',
    '~']

/-- Characters that stand for themselves behind a backslash. -/
def isEscapable (c : Char) : Bool :=
  metaChars.contains c || (c.toNat < 128 && !c.isAlphanum && c ≠ '<' && c ≠ '>')

/-- The part of a property's name in front of a mark, and the part behind it. -/
def cutAt (mark : List Char) : List Char → Option (List Char × List Char)
  | [] => none
  | c :: cs =>
    if mark.isPrefixOf (c :: cs) then some ([], (c :: cs).drop mark.length)
    else (cutAt mark cs).map fun (front, back) => (c :: front, back)

/-- A property in braces: one name, or a name and a value. -/
def propertyOf? (text : List Char) : Option NamedSet :=
  match ((cutAt ['!', '='] text).or (cutAt [':'] text)).or (cutAt ['='] text) with
  | some (name, value) => NamedSet.propertyValue? name value
  | none => NamedSet.property? text

def property (negated : Bool) : Reader Phrase := do
  skipBlanks
  if ← accept ['\x7b'] then return .named negated (← orRefuse (propertyOf? (← braced)))
  else
    let c ← step
    require (c ≠ '\\')
    return .named negated (← orRefuse (NamedSet.property? [c]))

/-- What a word border's backslash asks for. A name in braces tells; braces with anything but
letters at their beginning are left alone. -/
def wordBorder : Reader WordBorder := do
  let saved ← rest
  if ← accept ['\x7b'] then
    skipBlanks
    match ← peek? with
    | none => refuse
    | some c =>
      if c.isAlpha || c = '-' then
        match String.ofList (← braced) with
        | "start" => return .start
        | "end" => return .stop
        | "start-half" => return .startHalf
        | "end-half" => return .stopHalf
        | _ => refuse
      else
        setRest saved
        return .border
  else return .border

def escape : Reader Phrase := do
  let c ← next
  match c with
  | 'x' => hexEscape 2
  | 'u' => hexEscape 4
  | 'U' => hexEscape 8
  | 'p' => property false
  | 'P' => property true
  | 'd' => return .named false .digits
  | 'D' => return .named true .digits
  | 's' => return .named false .blanks
  | 'S' => return .named true .blanks
  | 'w' => return .named false .wordChars
  | 'W' => return .named true .wordChars
  | 'a' => return .char '\x07' false
  | 'f' => return .char '\x0c' false
  | 't' => return .char '\t' false
  | 'n' => return .char '\n' false
  | 'r' => return .char '\r' false
  | 'v' => return .char '\x0b' false
  | 'A' => return .textStart
  | 'z' => return .textEnd
  | 'b' => return .word (← wordBorder)
  | 'B' => return .word .noBorder
  | '<' => return .word .start
  | '>' => return .word .stop
  | _ =>
    require (isEscapable c)
    return .char c false

/-- A named class in brackets within a class. Texts that only look like one are left alone. -/
def asciiClass? : Reader (Option Bracket) := do
  let saved ← rest
  if ← accept ['[', ':'] then
    let negated ← accept ['^']
    let name := (← rest).takeWhile (· ≠ ':')
    setRest ((← rest).drop name.length)
    if ← accept [':', ']'] then
      match NamedSet.asciiClass? (String.ofList name) with
      | some set => return some (.named negated set)
      | none =>
        setRest saved
        return none
    else
      setRest saved
      return none
  else return none

def classAtom : Reader Phrase := do
  match ← next with
  | '\\' => escape
  | c => return .char c false

/-- An element as a member of a class; assertions are none. -/
def memberOf : Phrase → Reader Bracket
  | .char c _ => return .char c
  | .named negated set => return .named negated set
  | _ => refuse

/-- The character that decides what a hyphen in front of a text means. In extended patterns
blanks are passed, and of a comment its mark. -/
def behindHyphen (extended : Bool) (text : List Char) : Option Char :=
  if extended then
    match text.dropWhile Text.isBlank with
    | [] => text.head?
    | '#' :: cs => (cs.dropWhile Text.isBlank).head?.or text.head?
    | c :: _ => some c
  else text.head?

/-- A member of a class, or an interval between two characters. -/
def classRange : Reader Bracket := do
  let low ← classAtom
  skipBlanks
  let cs ← rest
  let following := behindHyphen (← extended) cs.tail
  if cs.head? ≠ some '-' || following = some ']' || following = some '-' then memberOf low
  else
    let _ ← step
    match low, ← classAtom with
    | .char low _, .char high _ =>
      require (low ≤ high)
      return .range low high
    | _, _ => refuse

/-- The hyphens that a class may begin with and that stand for themselves. -/
def classHead : Nat → Reader (List Bracket)
  | 0 => refuse
  | n + 1 => do
    skipBlanks
    if ← accept ['-'] then return .char '-' :: (← classHead n) else return []

mutual

/-- The members of a class up to its closing bracket, `items` being those read so far, the last
first. `before` puts them under the operators in front of them, which bind from left to right. -/
def classItems : Nat → (Bracket → Bracket) → List Bracket → Reader Bracket
  | 0, _, _ => refuse
  | n + 1, before, items => do
    skipBlanks
    if ← accept [']'] then return before (Bracket.ofItems items.reverse)
    else if ← accept ['&', '&'] then
      classItems n (.combined .inter (before (Bracket.ofItems items.reverse))) []
    else if ← accept ['-', '-'] then
      classItems n (.combined .diff (before (Bracket.ofItems items.reverse))) []
    else if ← accept ['~', '~'] then
      classItems n (.combined .symmDiff (before (Bracket.ofItems items.reverse))) []
    else if (← peek?) = some '[' then
      match ← asciiClass? with
      | some item => classItems n before (item :: items)
      | none =>
        let _ ← next
        let (negated, body) ← bracketed n
        classItems n before (.nested negated body :: items)
    else classItems n before ((← classRange) :: items)

/-- A class behind its opening bracket: whether it is negated, and its inside. -/
def bracketed : Nat → Reader (Bool × Bracket)
  | 0 => refuse
  | n + 1 => do
    skipBlanks
    let negated ← accept ['^']
    let hyphens ← classHead n
    let head ←
      if hyphens.isEmpty then
        if ← accept [']'] then pure [Bracket.char ']'] else pure []
      else pure hyphens
    return (negated, ← classItems n id head.reverse)

end

/-- Decimal digits, with blanks behind each, after `value` was read. -/
def decimalFrom : Nat → Nat → Reader Nat
  | 0, _ => refuse
  | n + 1, value => do
    match ← peek? with
    | some c =>
      if c.isDigit then
        let _ ← step
        decimalFrom n (10 * value + (c.toNat - '0'.toNat))
      else return value
    | none => return value

/-- A number below the bound of counters, with blanks around it. -/
def number : Reader Nat := do
  setRest ((← rest).dropWhile Text.isBlank)
  require ((← rest).head?.any Char.isDigit)
  let n ← decimalFrom ((← rest).length + 1) 0
  setRest ((← rest).dropWhile Text.isBlank)
  skipBlanks
  require (n ≤ 0xffffffff)
  return n

/-- The bounds of a counted repetition, behind the opening brace. -/
def counts : Reader (Nat × Option Nat) := do
  skipBlanks
  let least ← number
  let most ←
    if ← accept [','] then do
      skipBlanks
      if (← peek?) = some '\x7d' then pure none else pure (some (← number))
    else pure (some least)
  expect '\x7d'
  skipBlanks
  require (most.all (least ≤ ·))
  return (least, most)

def isNameStart (c : Char) : Bool := c = '_' || Text.latestAlphabetic.contains c

def isNamePart (c : Char) : Bool :=
  isNameStart c || Text.latestNumbers.contains c || c = '.' || c = '[' || c = ']'

def openGroup : Reader Nat := do
  let index := (← get).groups + 1
  modify fun r => { r with groups := index }
  return index

/-- Opens a group with a name, behind the opening angle. Names are distinct. -/
def openNamedGroup : Reader Nat := do
  let index ← openGroup
  let name ← upTo '>'
  match name with
  | [] => refuse
  | c :: cs =>
    require (isNameStart c && cs.all isNamePart)
    require (!(← get).names.contains name)
    modify fun r => { r with names := name :: r.names }
    return index

/-- Flags up to the character that ends them, which is left. No flag may come twice, and a
hyphen, behind which flags are cleared, needs a flag behind it. `seen` holds the characters read
so far, the last first. -/
def flagsFrom (value : Bool) (seen : List Char) : List Char → Option (FlagChange × List Char)
  | [] => none
  | c :: cs =>
    if c = ':' || c = ')' then
      if seen.head? = some '-' then none else some ([], c :: cs)
    else if seen.contains c then none
    else if c = '-' then flagsFrom false ('-' :: seen) cs
    else do
      let flag ← Flag.ofLetter? c
      let (change, rest) ← flagsFrom value (c :: seen) cs
      return ((flag, value) :: change, rest)

/-- What stands behind the opening parenthesis of a group. -/
inductive Opening
  | numbered (index : Nat)
  | scoped (change : FlagChange)
  | flagsOnly (change : FlagChange)

def opening : Reader Opening := do
  skipBlanks
  let cs ← rest
  if [['?', '='], ['?', '!'], ['?', '<', '='], ['?', '<', '!']].any (·.isPrefixOf cs) then refuse
  else if ← accept ['?', 'P', '<'] then return .numbered (← openNamedGroup)
  else if ← accept ['?', '<'] then return .numbered (← openNamedGroup)
  else if ← accept ['?'] then
    let (change, cs) ← orRefuse (flagsFrom true [] (← rest))
    setRest cs.tail
    if cs.head? = some ':' then return .scoped change
    else
      require (!change.isEmpty)
      return .flagsOnly change
  else return .numbered (← openGroup)

/-- Whether blanks stand for nothing after a change of flags. -/
def changeExtended (change : FlagChange) : Reader Unit := do
  match change.lookup .extended with
  | some value => setExtended value
  | none => pure ()

def element (n : Nat) : Reader Phrase := do
  match ← next with
  | '.' => return .dot
  | '^' => return .lineStart
  | '$' => return .lineEnd
  | '[' =>
    let (negated, body) ← bracketed n
    return .bracket negated body
  | '\\' => escape
  | c => return .char c false

/-- The part that a repetition applies to, which is the last one, and the parts before it. Flags
cannot be repeated. -/
def lastPart : List Phrase → Reader (Phrase × List Phrase)
  | [] | .change _ :: _ => refuse
  | part :: parts => return (part, parts)

/-- A repetition of the last part. A question mark behind it makes it lazy. -/
def repetition (least : Nat) (most : Option Nat) (parts : List Phrase) :
    Reader (List Phrase) := do
  let (part, parts) ← lastPart parts
  let lazy ← accept ['?']
  return .repeated least most (!lazy) part :: parts

mutual

/-- Branches up to the end of the group or of the pattern. -/
def alternatives : Nat → Reader Phrase
  | 0 => refuse
  | n + 1 => do
    let first ← sequence n []
    if ← accept ['|'] then return .either first (← alternatives n) else return first

/-- The parts of a branch; `parts` are those read so far, the last first. -/
def sequence : Nat → List Phrase → Reader Phrase
  | 0, _ => refuse
  | n + 1, parts => do
    skipBlanks
    match ← peek? with
    | none | some '|' | some ')' => return Phrase.ofParts parts.reverse
    | some '(' =>
      let _ ← next
      let saved ← extended
      match ← opening with
      | .flagsOnly change =>
        changeExtended change
        sequence n (.change change :: parts)
      | .scoped change =>
        changeExtended change
        let body ← alternatives n
        setExtended saved
        expect ')'
        sequence n (.scope change body :: parts)
      | .numbered index =>
        let body ← alternatives n
        setExtended saved
        expect ')'
        sequence n (.group index body :: parts)
    | some '*' =>
      let _ ← next
      sequence n (← repetition 0 none parts)
    | some '+' =>
      let _ ← next
      sequence n (← repetition 1 none parts)
    | some '?' =>
      let _ ← next
      sequence n (← repetition 0 (some 1) parts)
    | some '\x7b' =>
      let _ ← next
      let (least, most) ← counts
      sequence n (← repetition least most parts)
    | some _ => sequence n ((← element n) :: parts)

end

end Reader

namespace Phrase

def maxHeight : Nat := 250

def read? (flags : Flags) (pattern : List Char) : Option Phrase := do
  let (phrase, r) ←
    (Reader.alternatives (4 * pattern.length + 4)).run ⟨pattern, flags.extended, 0, []⟩
  if r.rest.isEmpty && phrase.height .none ≤ maxHeight then some phrase else none

end Phrase

end Descent.Regex
