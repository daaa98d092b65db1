/-!
Logs of a run. A log is kept as lines with the nesting depth at which they were written, latest
first; as a text, every line is indented by two blanks for each level and ends with a line break.
-/
namespace Descent

structure Line where
  depth : Nat
  message : String

/-- Lines of a log, latest first. -/
abbrev Log := List Line

namespace Log

def lineChars (l : Line) : List Char :=
  List.replicate (2 * l.depth) ' ' ++ l.message.toList ++ ['\n']

def chars (log : Log) : List Char := log.reverse.flatMap lineChars

def render (log : Log) : String := String.ofList log.chars

theorem chars_cons (l : Line) (log : Log) :
    chars (l :: log) = chars log ++ lineChars l := by
  simp [chars]

theorem chars_append (later earlier : Log) :
    chars (later ++ earlier) = chars earlier ++ chars later := by
  simp [chars]

end Log

end Descent
