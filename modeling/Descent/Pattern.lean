import Descent.Regex.Compiled

/-!
Patterns: regular expressions that are meant to match where the scanner stands. The pattern is
set inside an anchored group and the whole is compiled as one text. A pattern with unbalanced
parentheses can thereby close the group and leave the anchor to its first branch.
-/
namespace Descent

structure Pattern where
  source : String
  anchored : Regex

namespace Pattern

def anchoredSource (source : String) : String := "^(?:" ++ source ++ ")"

def compile? (source : String) : Option Pattern :=
  (Regex.compile? (anchoredSource source) {}).map fun anchored => ⟨source, anchored⟩

/-- The pattern with the source text of a regular expression. Flags that the expression was
compiled with are not part of that text. -/
def ofRegex? (r : Regex) : Option Pattern := compile? r.source

def find? (p : Pattern) (text : List Char) : Option Regex.Match := p.anchored.find? text

end Pattern

end Descent
