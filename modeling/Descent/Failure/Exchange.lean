import Descent.Failure
import Descent.Limits

/-!
Failures as exchanged data. A failure is written with its fields by name; it is read from fields
by name, of which unknown ones are passed over and the cause may be missing, or from a list of
exactly its fields in order. Counts are machine words.
-/
namespace Descent

/-- Structured data as it is exchanged. -/
inductive Exchange
  | null
  | natural (n : Nat)
  | text (value : String)
  | list (items : List Exchange)
  | fields (members : List (String × Exchange))
  | other

namespace Exchange

instance : Inhabited Exchange := ⟨null⟩

def count? : Exchange → Option Nat
  | natural n => if n ≤ unlimited then some n else none
  | _ => none

def text? : Exchange → Option String
  | text value => some value
  | _ => none

end Exchange

namespace Position

def ofExchange? : Exchange → Option Position
  | .list [offset, line, column] => do
    return ⟨← offset.count?, ← line.count?, ← column.count?⟩
  | .fields members => do
    let offset ← members.lookup "offset"
    let line ← members.lookup "line"
    let column ← members.lookup "column"
    return ⟨← offset.count?, ← line.count?, ← column.count?⟩
  | _ => none

def toExchange (p : Position) : Exchange :=
  .fields [("offset", .natural p.offset), ("line", .natural p.line),
    ("column", .natural p.column)]

end Position

namespace Failure

mutual

def optionOf? : Exchange → Option (Option Failure)
  | .null => some none
  | .list [location, message, cause] => do
    return some ⟨← Position.ofExchange? location, ← message.text?, ← optionOf? cause⟩
  | .fields members => do
    let location ← members.lookup "location"
    let message ← members.lookup "message"
    return some ⟨← Position.ofExchange? location, ← message.text?, ← causeAmong? members⟩
  | _ => none

/-- The cause among named fields; there is none if no field names it. -/
def causeAmong? : List (String × Exchange) → Option (Option Failure)
  | [] => some none
  | (name, value) :: members => if name = "cause" then optionOf? value else causeAmong? members

end

def ofExchange? (e : Exchange) : Option Failure := (optionOf? e).join

def toExchange : Failure → Exchange
  | ⟨location, message, none⟩ =>
    .fields [("location", location.toExchange), ("message", .text message), ("cause", .null)]
  | ⟨location, message, some cause⟩ =>
    .fields [("location", location.toExchange), ("message", .text message),
      ("cause", cause.toExchange)]

end Failure

end Descent
