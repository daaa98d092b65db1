/-!
The inspection form of structured values: the name of the type, then its fields by name,
`Point { x: 1, y: 2 }`. Lists stand in brackets, and a value that may be missing is `None`
or `Some(..)`.
-/
namespace Descent.Text

/-- A named value with named fields, at least one. -/
def record (name : String) (fields : List (String × String)) : String :=
  name ++ " \x7b " ++
    ", ".intercalate (fields.map fun (field, value) => field ++ ": " ++ value) ++ " \x7d"

/-- A record of which some fields are not shown. -/
def openRecord (name : String) (fields : List (String × String)) : String :=
  name ++ " \x7b " ++
    ", ".intercalate (fields.map (fun (field, value) => field ++ ": " ++ value) ++ [".."]) ++
    " \x7d"

def listForm (items : List String) : String := "[" ++ ", ".intercalate items ++ "]"

def applied (name value : String) : String := name ++ "(" ++ value ++ ")"

def optionForm : Option String → String
  | none => "None"
  | some value => applied "Some" value

end Descent.Text
