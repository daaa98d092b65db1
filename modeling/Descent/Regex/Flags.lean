/-!
Flags of regular expressions: switches that a pattern sets for what follows, up to the end of
the group that they stand in.
-/
namespace Descent.Regex

inductive Flag
  | ignoreCase
  | multiLine
  | dotAll
  | swapGreed
  | wideBreaks
  | unicode
  | extended
deriving DecidableEq

structure Flags where
  ignoreCase : Bool := false
  multiLine : Bool := false
  dotAll : Bool := false
  swapGreed : Bool := false
  /-- Line breaks may be two characters. -/
  wideBreaks : Bool := false
  /-- Sets and word borders go by all characters, not only by those of ASCII. -/
  unicode : Bool := true
  extended : Bool := false

/-- Flags to set or to clear, in order. -/
abbrev FlagChange := List (Flag × Bool)

def Flag.ofLetter? : Char → Option Flag
  | 'i' => some .ignoreCase
  | 'm' => some .multiLine
  | 's' => some .dotAll
  | 'U' => some .swapGreed
  | 'R' => some .wideBreaks
  | 'u' => some .unicode
  | 'x' => some .extended
  | _ => none

def Flags.set (f : Flags) (flag : Flag) (value : Bool) : Flags :=
  match flag with
  | .ignoreCase => { f with ignoreCase := value }
  | .multiLine => { f with multiLine := value }
  | .dotAll => { f with dotAll := value }
  | .swapGreed => { f with swapGreed := value }
  | .wideBreaks => { f with wideBreaks := value }
  | .unicode => { f with unicode := value }
  | .extended => { f with extended := value }

def Flags.change (f : Flags) (change : FlagChange) : Flags :=
  change.foldl (fun f (flag, value) => f.set flag value) f

end Descent.Regex
