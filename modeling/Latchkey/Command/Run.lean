import Latchkey.Command.Help
import Latchkey.Service.Assembly
import Latchkey.Service.Sweep
import Latchkey.Settings.Load
/-!
# Running commands

A command reads the settings first. Its output is written when it has succeeded.
-/

namespace Latchkey

/-- Why a command fails. -/
inductive CommandFault where
  | settings (f : SettingFault)
  | error (e : Error)

namespace CommandFault

def message : CommandFault → String
  | settings f => f.message
  | error e => e.message

end CommandFault

/-- The instant that a sweep of what expired an age ago goes back to. -/
def SweepArgs.cutoff? (a : SweepArgs) (now : Instant) : Except Error (Option Instant) :=
  match a.olderThanSecs with
  | none => .ok none
  | some secs =>
    match (Duration.ofSeconds? secs).bind now.sub? with
    | some t => .ok (some t)
    | none => .error (.validation
        ("--older-than-secs " ++ toString secs ++ " is out of range"))

namespace Command

variable {σ : Type}

def sweepLine (r : SweepResult) : String :=
  "processed=" ++ toString r.processed ++ " removed=" ++ toString r.removed ++ " failed="
    ++ toString r.failed ++ " more_remaining=" ++ toString r.mayRemain ++ "\n"

/-- Removes a batch from the store of keys that the settings choose. -/
def runSweep (site : Site σ) (settings : Settings) (a : SweepArgs) : Act σ Error String := do
  let olderThan ← Act.ofExcept (a.cutoff? (← Act.read site.now))
  let service ← site.assemble settings false
  service.start
  let result ← service.sweep { batchSize := a.batchSize, olderThan }
  pure (sweepLine result)

/-- The output of a command under the settings. -/
def output (site : Site σ) (settings : Settings) : Command → Act σ Error String
  | generate o => do
    let keys ← generateKeys o settings.keys site.random
    pure (String.join (keys.map fun k => k.key ++ "\t" ++ k.digest ++ "\n"))
  | hash key secret => pure (digestOf key (secret <|> settings.keys.secret) ++ "\n")
  | sweep a => runSweep site settings a

def run (site : Site σ) (settings : Decoded Settings) (command : Command) :
    Act σ CommandFault String := do
  let settings ← Act.ofExcept (settings.mapError .settings)
  (command.output site settings).mapError .error

end Command

/-- How a run of the program ends. -/
structure Ending where
  status : Nat
  output : String := ""
  /-- Shown beside the output when there is nothing to run. -/
  notice : String := ""
  error : Option String := none
deriving DecidableEq

namespace Ending

/-- Help and the version are answers; any other command line that is no command is an error. -/
def ofUsage : Usage → Ending
  | .help topic => { status := 0, output := topic.text }
  | .version => { status := 0, output := versionText }
  | usage => { status := 2, notice := usage.notice }

end Ending

/-- Runs a command line on the settings of files and of the environment. -/
def runProgram {σ : Type} (site : Site σ) (files : List (String × Json))
    (environment : List (String × String)) (args : List String) (s : σ) : Ending :=
  match Command.ofArgs args with
  | .error usage => .ofUsage usage
  | .ok command =>
    match (command.run site (Settings.load files environment) s).1 with
    | .ok output => { status := 0, output }
    | .error .outOfTime | .error (.error (.settings .noPlace)) => { status := 101 }
    | .error (.error fault) => { status := 1, error := some fault.message }

end Latchkey
