import Latchkey.Text.Quoted
/-!
# Outlines of values

How a value is shown in a log: the name of its kind with the fields that may be seen.
-/

namespace Latchkey.Text

def listOutline (items : List String) : String := "[" ++ ", ".intercalate items ++ "]"

def optionOutline : Option String → String
  | none => "None"
  | some text => "Some(" ++ text ++ ")"

/-- The fields of a value, with two dots at the end if there are others. -/
def outline (name : String) (fields : List (String × String)) (others : Bool) : String :=
  let shown := fields.map (fun (n, text) => n ++ ": " ++ text) ++ (if others then [".."] else [])
  name ++ " \x7b " ++ ", ".intercalate shown ++ " \x7d"

end Latchkey.Text
