import Latchkey.Settings.Decode
/-!
# Loading settings

Files come first, in order, and then the environment. A variable whose name starts with `keyward__`
in any case gives the setting that the rest of its name leads to, with two underscores between the
names of sections. Its value is a truth value or a number if it reads like one, and else a text.
-/

namespace Latchkey

namespace Setting

def environmentOrigin : String := "the environment"

/-- The value of a variable. -/
def scalarOfVariable (value : String) : Scalar :=
  match Text.lower value with
  | "true" => .flag true
  | "false" => .flag false
  | _ =>
    match readInt64? value, readFloat? value with
    | some n, _ => .whole n
    | none, some x => .real x
    | none, none => .text value

/-- The path of the setting that a variable gives. -/
def pathOfVariable? (name : String) : Option (List PathPart) :=
  let name := Text.lower name
  if name.startsWith "keyward__" then
    some (PathPart.readPath (".".intercalate ((name.drop 9).toString.splitOn "__")))
  else none

/-- The layer with a value over it. -/
def placed (value : Setting) (path : List PathPart) (below : Setting) : Decoded Setting :=
  match place? value path below with
  | some s => .ok s
  | none => .error .noPlace

/-- The layer with a variable of the environment over it. -/
def placeVariable (below : Setting) (entry : String × String) : Decoded Setting :=
  match pathOfVariable? entry.1 with
  | some path => placed (scalar (scalarOfVariable entry.2) environmentOrigin) path below
  | none => .ok below

/-- The layer with the settings of a file over it. A file holds a table. -/
def placeFile (below : Setting) (file : String × Json) : Decoded Setting :=
  match ofJson file.1 file.2 with
  | table entries _ =>
    entries.foldlM (fun s (name, value) => placed value (PathPart.readPath name) s) below
  | s => .error (.badSection ((s.mistyped "a map").message ++ " in " ++ file.1))

end Setting

namespace Settings

/-- The settings of files and of variables, each with its name. -/
def load (files : List (String × Json)) (environment : List (String × String)) :
    Decoded Settings := do
  let layers ← files.foldlM Setting.placeFile (.table [] none)
  ofSetting (← environment.foldlM Setting.placeVariable layers)

end Settings

end Latchkey
