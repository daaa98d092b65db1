import Descent.Regex.Meaning
import Descent.Regex.Reader
import Descent.Regex.Search
import Descent.Regex.Size

/-!
Compiled regular expressions and the matches they find. A match is the preferred one at the
earliest place, with the texts of the groups that took part.
-/
namespace Descent

/-- A regular expression with the text and the flags it was read from. -/
structure Regex where
  source : String
  flags : Regex.Flags
  node : Regex.Node
  /-- The number of groups, the whole match among them. -/
  groupCount : Nat

namespace Regex

structure Match where
  whole : Span
  /-- The stretch of each numbered group, from one; none for a group that took no part. -/
  groups : List (Option Span)

def compile? (source : String) (flags : Flags) : Option Regex := do
  let phrase ← Phrase.read? flags source.toList
  let e ← phrase.meaning? flags
  if e.fits then some ⟨source, flags, e.toNode [], e.groupCount⟩ else none

def find? (r : Regex) (text : List Char) : Option Match := do
  let (start, s) ← r.node.search text
  let groups := (List.range (r.groupCount - 1)).map fun i => s.groups.lookup (i + 1)
  return ⟨⟨start, s.index⟩, groups⟩

end Regex

end Descent
