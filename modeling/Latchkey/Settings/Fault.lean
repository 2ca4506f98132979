import Latchkey.Decimal.Style
import Latchkey.Settings.Value
import Latchkey.Text.Quoted
/-!
# What can be wrong with settings

A value of the wrong type is reported with what it is, what was expected, its path, and where it
was written. A section or a choice that is wrong as such is reported by name alone. A path to a
place that no list has ends the program without a report.
-/

namespace Latchkey

inductive SettingFault where
  | mistyped (found expected : String) (path : List PathPart) (origin : Option String)
  | badSection (message : String)
  /-- A path leads before the start of a list, or further behind its end than any list reaches. -/
  | noPlace

namespace SettingFault

def message : SettingFault → String
  | mistyped found expected path origin =>
    "invalid type: " ++ found ++ ", expected " ++ expected
      ++ (if path.isEmpty then "" else " for key \x60" ++ PathPart.pathText path ++ "\x60")
      ++ (match origin with
        | some place => " in " ++ place
        | none => "")
  | badSection message => message
  | noPlace => ""

/-- The fault, met one step further down. -/
def under (part : PathPart) : SettingFault → SettingFault
  | mistyped found expected path origin => mistyped found expected (part :: path) origin
  | f => f

end SettingFault

namespace Scalar

def flagText (b : Bool) : String := if b then "true" else "false"

/-- A scalar as a fault shows it. -/
def found : Scalar → String
  | nothing => "unit value"
  | flag b => "boolean \x60" ++ flagText b ++ "\x60"
  | whole n => "64-bit integer \x60" ++ toString n ++ "\x60"
  | real x => "floating point \x60" ++ FloatStyle.plain.text x ++ "\x60"
  | text s => "string " ++ Text.quoted s

end Scalar

namespace Setting

/-- A value as a fault shows it. -/
def found : Setting → String
  | scalar value _ => value.found
  | list _ _ => "sequence"
  | table _ _ => "map"

def origin? : Setting → Option String
  | scalar _ origin => origin
  | list _ origin => origin
  | table _ origin => origin

/-- The fault that a value is not of the expected type. -/
def mistyped (s : Setting) (expected : String) : SettingFault :=
  .mistyped s.found expected [] s.origin?

end Setting

end Latchkey
