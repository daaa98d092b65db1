import Descent.Text.Quoted

/-!
Escapes in the body of a text: a backslash with a letter, or with four hexadecimal digits. Two
escapes of surrogates, the high before the low, stand for one character; a surrogate by itself
stands for none.
-/
namespace Descent.Json.Escape

inductive Error
  | invalidEscape (c : Char)
  | trailingBackslash
  /-- Fewer than four characters stand where digits should. -/
  | truncatedUnicode
  | invalidHex (digits : List Char)
  | invalidCodepoint (code : Nat)
deriving DecidableEq

/-- A number in base sixteen, upper case, with at least four digits. -/
def paddedHex (n : Nat) : List Char :=
  let digits := (Text.hexDigits n).map Char.toUpper
  List.replicate (4 - digits.length) '0' ++ digits

def Error.message : Error → String
  | invalidEscape c => "invalid escape sequence \\" ++ String.ofList [c]
  | trailingBackslash => "trailing backslash"
  | truncatedUnicode => "truncated unicode escape"
  | invalidHex digits => "invalid unicode escape " ++ Text.quotedList digits
  | invalidCodepoint code => "invalid unicode character U+" ++ String.ofList (paddedHex code)

def hex4 : List Char → Except Error (Nat × List Char)
  | a :: b :: c :: d :: rest =>
    match Text.hexValue? a, Text.hexValue? b, Text.hexValue? c, Text.hexValue? d with
    | some a, some b, some c, some d => .ok (((a * 16 + b) * 16 + c) * 16 + d, rest)
    | _, _, _, _ => .error (.invalidHex [a, b, c, d])
  | _ => .error .truncatedUnicode

def isHighSurrogate (n : Nat) : Bool := 0xd800 ≤ n && n < 0xdc00

def isLowSurrogate (n : Nat) : Bool := 0xdc00 ≤ n && n < 0xe000

def pairCode (high low : Nat) : Nat := 0x10000 + (high - 0xd800) * 0x400 + (low - 0xdc00)

def charOfCode (n : Nat) : Except Error Char :=
  if n.isValidChar then .ok (Char.ofNat n) else .error (.invalidCodepoint n)

/-- The character that an escape stands for, behind its backslash and letter, and the text behind
it. The second escape of a pair is read only if it completes the pair. -/
def unicode (text : List Char) : Except Error (Char × List Char) := do
  let (high, rest) ← hex4 text
  match isHighSurrogate high, rest with
  | true, '\\' :: 'u' :: tail =>
    let (low, behind) ← hex4 tail
    if isLowSurrogate low then return (← charOfCode (pairCode high low), behind)
    else return (← charOfCode high, rest)
  | _, _ => return (← charOfCode high, rest)

/-- The characters that one letter behind a backslash stands for. -/
def short? : Char → Option Char
  | '"' => some '"'
  | '\\' => some '\\'
  | '/' => some '/'
  | 'b' => some '\x08'
  | 'f' => some '\x0c'
  | 'n' => some '\n'
  | 'r' => some '\r'
  | 't' => some '\t'
  | _ => none

/-- The first character that a text stands for, and the text behind its spelling. -/
def next : Char → List Char → Except Error (Char × List Char)
  | '\\', [] => .error .trailingBackslash
  | '\\', 'u' :: rest => unicode rest
  | '\\', c :: rest =>
    match short? c with
    | some d => .ok (d, rest)
    | none => .error (.invalidEscape c)
  | c, rest => .ok (c, rest)

/-- Decodes a text. Each step reads a character at least, so that as many steps suffice as there
are characters. -/
def decodeFrom : Nat → List Char → Except Error (List Char)
  | _, [] => .ok []
  | 0, _ :: _ => .ok []
  | steps + 1, c :: cs => do
    let (d, rest) ← next c cs
    return d :: (← decodeFrom steps rest)

def decode (raw : List Char) : Except Error (List Char) := decodeFrom raw.length raw

end Descent.Json.Escape
