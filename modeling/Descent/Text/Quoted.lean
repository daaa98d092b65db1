import Descent.Text.Newcomers

/-!
Quoted texts, as messages and logs show them. A quoted text is one line whatever it holds:
the mark that ends it, the backslash and all characters without a visible shape are written
as escapes.
-/
namespace Descent.Text

/-- Characters that have no shape of their own, or attach to the one before them. The space is
none of these. -/
def invisible : CharSet :=
  CharSet.union newMarks
    (CharSet.diff
      (CharSet.union
        (charsOf [.control, .format, .surrogate, .privateUse, .unassigned, .spaceSeparator,
          .lineSeparator, .paragraphSeparator])
        (CharSet.inter graphemeExtend marks))
      (CharSet.union newcomers (CharSet.single ' ')))

def isInvisible (c : Char) : Bool := invisible.contains c

def numbered (c : Char) : List Char :=
  ['\\', 'u', '\x7b'] ++ hexDigits c.toNat ++ ['\x7d']

/-- One character of a text that stands between two `mark`s. -/
def quotedChar (mark c : Char) : List Char :=
  if c = mark || c = '\\' then ['\\', c]
  else if c = '\n' then ['\\', 'n']
  else if c = '\r' then ['\\', 'r']
  else if c = '\t' then ['\\', 't']
  else if c.toNat = 0 then ['\\', '0']
  else if isInvisible c then numbered c
  else [c]

def quotedBetween (mark : Char) (cs : List Char) : List Char :=
  mark :: cs.flatMap (quotedChar mark) ++ [mark]

def quotedList (cs : List Char) : String := String.ofList (quotedBetween '"' cs)

def quoted (s : String) : String := quotedList s.toList

def quotedSingle (c : Char) : String := String.ofList (quotedBetween '\x27' [c])

end Descent.Text
