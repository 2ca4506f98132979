import Latchkey.Command.Run
import Latchkey.Json.Reader
import Latchkey.Service.World
import Std.Time.DateTime.Timestamp
/-!
# The program

What the program has from outside: its arguments, the files with settings in the directory it runs
in, its environment, the time, and random bytes.
-/

namespace Latchkey.Program

/-- The settings in a file; nothing if there is no such file. -/
def settingsFile (path : String) : IO (List (String × Json)) := do
  let text ← try some <$> IO.FS.readFile path catch _ => pure none
  match text with
  | none => return []
  | some text =>
    match Json.read? text with
    | some settings => return [(path, settings)]
    | none => throw (IO.userError (path ++ " does not hold JSON"))

/-- A variable of the environment, written with an equals sign. -/
def variableOf? (entry : String) : Option (String × String) :=
  match splitEquals entry.toList with
  | (name, some value) => some (String.ofList name, String.ofList value)
  | (_, none) => none

def environment : IO (List (String × String)) := do
  let bytes ← IO.FS.readBinFile "/proc/self/environ"
  let text := (String.fromUTF8? bytes).getD ""
  return (text.splitOn "\x00").filterMap variableOf?

/-- Words of 32 bits, the lowest byte of each first. -/
def words : Bytes → List UInt32
  | a :: b :: c :: d :: rest =>
    (a.toUInt32 ||| (b.toUInt32 <<< 8) ||| (c.toUInt32 <<< 16) ||| (d.toUInt32 <<< 24))
      :: words rest
  | _ => []

/-- The state at the start: the time, nothing stored, and a stream of bytes with a random key. -/
def world : IO World := do
  let ns := (← Std.Time.Timestamp.now).toNanosecondsSinceUnixEpoch.val
  let key := words (← IO.getRandomBytes 32).data.toList
  return { now := (Instant.ofNs? ns).getD .epoch, entropy := .seeded ⟨key, 0⟩ }

def run (args : List String) : IO Ending := do
  let files := (← settingsFile "config/default.json") ++ (← settingsFile "config/local.json")
  return runProgram World.site files (← environment) args (← world)

end Latchkey.Program

def main (args : List String) : IO UInt32 := do
  try
    let ending ← Latchkey.Program.run args
    IO.print ending.output
    IO.eprint ending.notice
    match ending.error with
    | some message => IO.eprintln ("Error: " ++ message)
    | none => pure ()
    return UInt32.ofNat ending.status
  catch e =>
    IO.eprintln ("Error: " ++ toString e)
    return 1
