import Descent.Json.Escape
import Descent.Json.Value
import Descent.Parsing

/-!
The grammar of the data format. Blanks may stand before and behind every token. A value is told
by the character it begins with; what begins with none of the marks of a text, an object or an
array is tried as a number and then as each constant. A key may come only once in an object, and
a second one is reported where it begins.
-/
namespace Descent.Json

open Script

inductive Rule
  | document
  | value
  | object
  | array
  | string
  | number
deriving DecidableEq

abbrev Yield : Rule → Type
  | .document => Value
  | .value => Value
  | .object => Object
  | .array => List Value
  | .string => String
  | .number => Float

/-- A sign, digits without a leading zero, a fraction and a power of ten. -/
def numberPattern : Pattern :=
  (Pattern.compile? "-?(?:0|[1-9][0-9]*)(?:\\.[0-9]+)?(?:[eE][+-]?[0-9]+)?").get
    (by decide +kernel)

/-- Escapes, and characters that need none. -/
def textPattern : Pattern :=
  (Pattern.compile?
    "(?:\\\\[\"\\\\/bfnrt]|\\\\u[0-9a-fA-F]\x7b4\x7d|[^\\\\\"\\p\x7bCc\x7d])*").get
    (by decide +kernel)

def blankPattern : Pattern :=
  (Pattern.compile? "[\\p\x7bZs\x7d\\t\\r\\n]*").get (by decide +kernel)

abbrev lit (text : String) : Callee Rule := .token (.literal text)

def blanks : Script Yield Unit := skip (.token (.pattern blankPattern))

/-- The constants, in the order in which they are tried. -/
def constants : List (String × Value) :=
  [("true", .bool true), ("false", .bool false), ("null", .null)]

def constantFrom : List (String × Value) → Script Yield Value
  | [] => fail "unable to parse value"
  | (word, value) :: others => do
    if ← succeeds (lit word) then return value else constantFrom others

def valueBody : Script Yield Value := do
  blanks
  if ← sees (lit "\"") then
    let text ← parse (.rule .string)
    return .text text
  else if ← sees (lit "\x7b") then
    let members ← parse (.rule .object)
    return .object members
  else if ← sees (lit "[") then
    let items ← parse (.rule .array)
    return .array items
  else
    match ← attempt (.rule .number) [] with
    | .ok x => return .number x
    | .error _ => constantFrom constants

def documentBody : Script Yield Value := do
  let value ← parse (.rule .value)
  blanks
  return value

/-- A key that is present already is reported where it begins. -/
def duplicateKey {α : Type} (start : Position) (key : String) : Script Yield α :=
  failAt start ("duplicate key " ++ Text.quoted key)

/-- Members up to the first that no comma follows. Every round but the last reads a comma. -/
def membersFrom : Nat → Object → Script Yield Object
  | 0, members => return members
  | rounds + 1, members => do
    blanks
    let start ← get .location
    let key ← parse (.rule .string)
    if members.contains key then duplicateKey start key
    else
      blanks
      let _ ← parse (lit ":")
      let item ← parse (.rule .value)
      match members.insert key item with
      | .error (key, _) => duplicateKey start key
      | .ok members =>
        blanks
        if ← succeeds (lit ",") then membersFrom rounds members else return members

def objectBody : Script Yield Object := do
  blanks
  let _ ← parse (lit "\x7b")
  blanks
  if ← succeeds (lit "\x7d") then return Members.empty
  else
    let rest ← get .remaining
    let members ← membersFrom (rest.length + 1) Members.empty
    let _ ← parse (lit "\x7d")
    return members

/-- Items up to the first that no comma follows, behind those read so far, latest first. Every
round but the last reads a comma. -/
def itemsFrom : Nat → List Value → Script Yield (List Value)
  | 0, items => return items.reverse
  | rounds + 1, items => do
    let item : Value ← parse (.rule Rule.value)
    blanks
    if ← succeeds (lit ",") then itemsFrom rounds (item :: items)
    else return (item :: items).reverse

def arrayBody : Script Yield (List Value) := do
  blanks
  let _ ← parse (lit "[")
  blanks
  if ← succeeds (lit "]") then return []
  else
    let rest ← get .remaining
    let items ← itemsFrom (rest.length + 1) []
    let _ ← parse (lit "]")
    return items

def stringBody : Script Yield String := do
  let _ ← parse (lit "\"")
  let raw ← parse (.token (.pattern textPattern))
  match Escape.decode raw.toList with
  | .error e => fail e.message
  | .ok text =>
    if ← succeeds (lit "\"") then return String.ofList text
    else fail "invalid character in string literal"

def numberBody : Script Yield Float := do
  match ← attempt (.token (.pattern numberPattern)) [] with
  | .error _ => fail "not a valid number"
  | .ok digits =>
    match Decimal.readFloat? digits.toList with
    | none => fail "invalid float literal"
    | some x => return x

def body : (r : Rule) → Script Yield (Yield r)
  | .document => documentBody
  | .value => valueBody
  | .object => objectBody
  | .array => arrayBody
  | .string => stringBody
  | .number => numberBody

def kind : Rule → String
  | .document => "json::ast::JsonValue"
  | .value => "json::ast::JsonValue"
  | .object => "json::ast::JsonObject"
  | .array => "alloc::vec::Vec<json::ast::JsonValue>"
  | .string => "alloc::string::String"
  | .number => "f64"

def grammar : Grammar := ⟨Rule, Yield, kind, body⟩

inductive Error
  | empty
  | fault (f : Fault)

def Error.message : Error → String
  | empty => "expected JSON value, found EOF"
  | fault f => f.message

/-- The value that a text writes. A text of blanks is not even parsed. -/
def parseText (text : String) : Except Error Value :=
  if text.toList.all Text.isBlank then .error .empty
  else (grammar.parse (.rule .document) text).mapError .fault

end Descent.Json
