-- Values written as records: a name, then the fields in braces.
import StagedFiles.Text.Letter

namespace StagedFiles.Record

/-- A named record with its fields in order. -/
def render (name : String) (fields : List (String × String)) : String :=
  name ++ " \x7b " ++ String.intercalate ", " (fields.map fun f => f.1 ++ ": " ++ f.2) ++ " \x7d"

/-- A named record that shows some of its fields. -/
def renderSome (name : String) (fields : List (String × String)) : String :=
  name ++ " \x7b " ++ String.intercalate ", " (fields.map fun f => f.1 ++ ": " ++ f.2) ++ ", .. \x7d"

/-- A value inside its constructor. -/
def tagged (tag value : String) : String := tag ++ "(" ++ value ++ ")"

def option (value : Option String) : String :=
  match value with
  | some v => tagged "Some" v
  | none => "None"

def text (s : String) : String := Letter.quote s

end StagedFiles.Record
