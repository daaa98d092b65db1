import Descent.Script

/-!
What the tokens do, as scripts of scanner operations. Every token logs its attempt, looks at the
text left, and either refuses it without having moved, or moves over what it read.
-/
namespace Descent.Token

open Script

def kind : Token → String
  | literal _ => "&str"
  | anyOf _ => "()"
  | pattern _ => "&str"
  | groups _ => "alloc::vec::Vec<&str>"

variable {ρ : Type} {Y : ρ → Type}

/-- Reads exactly the given text. A text that is too short is told from one that differs. -/
def literalScript (text : String) : Script Y String := do
  logAttempt ("literal " ++ Text.quoted text)
  let rest ← get .remaining
  let width := Text.width text.toList
  if !Text.atLeast width rest then refuse (.unexpectedEnd text)
  else if !text.toList.isPrefixOf rest then refuse (.literalMismatch text)
  else
    move width
    return text

/-- Reads the longest run of the given characters. -/
def anyOfScript (characters : String) : Script Y Unit := do
  logAttempt ("any of " ++ Text.quoted characters)
  let rest ← get .remaining
  move (Text.width (rest.takeWhile (characters.toList.contains ·)))

/-- Reads to the end of the match of a pattern. -/
def patternScript (p : Pattern) : Script Y String := do
  logAttempt ("pattern " ++ Text.quoted p.source)
  let rest ← get .remaining
  match p.find? rest with
  | none => refuse (.patternMismatch p.source)
  | some m =>
    move (Text.width (rest.take m.whole.stop))
    return String.ofList (m.whole.slice rest)

/-- The texts of a match: the whole of it, then its groups. A group that took no part has the
empty text. -/
def groupTexts (m : Regex.Match) (text : List Char) : List String :=
  String.ofList (m.whole.slice text) ::
    m.groups.map fun group => String.ofList ((group.map (·.slice text)).getD [])

def groupsScript (p : Pattern) : Script Y (List String) := do
  logAttempt ("pattern " ++ Text.quoted p.source)
  let rest ← get .remaining
  match p.find? rest with
  | none => refuse (.patternMismatch p.source)
  | some m =>
    move (Text.width (m.whole.slice rest))
    return groupTexts m rest

def script : (t : Token) → Script Y t.Yield
  | literal text => literalScript text
  | anyOf characters => anyOfScript characters
  | pattern p => patternScript p
  | groups p => groupsScript p

/-- The text that a token is given by; a set of characters has none. -/
def source? : Token → Option String
  | literal text => some text
  | anyOf _ => none
  | pattern p => some p.source
  | groups p => some p.source

def inspectPattern (p : Pattern) : String :=
  Text.record "Anchored"
    [("regex", Text.applied "Regex" (Text.quoted p.anchored.source)),
      ("source", Text.quoted p.source)]

def inspect : Token → String
  | literal text => Text.record "Literal" [("text", Text.quoted text)]
  | anyOf characters => Text.record "SkipAny" [("chars", Text.quoted characters)]
  | pattern p => Text.record "Match" [("pattern", inspectPattern p)]
  | groups p => Text.record "Submatches" [("pattern", inspectPattern p)]

/-- Whether two tokens are equal, where equality is defined: between literals, and between sets
of characters. -/
def same? : Token → Token → Option Bool
  | literal x, literal y => some (x == y)
  | anyOf x, anyOf y => some (x == y)
  | _, _ => none

def inspectLiterals (texts : List String) : String :=
  Text.record "Sequence"
    [("stages", Text.listForm (texts.map fun text => (literal text).inspect))]

end Descent.Token
