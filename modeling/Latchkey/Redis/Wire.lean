import Latchkey.Act
import Latchkey.Text.Quoted
/-!
# Talking to Redis

The commands that are sent, the replies that come back, and the readings of a reply as a number, a
text or a pair. An error that the server signals is a fault and never a reply.
-/

namespace Latchkey

/-- The scripts that run a rule on the server. -/
inductive RateScript where
  | window
  | bucket
deriving DecidableEq

namespace RateScript

def name : RateScript → String
  | window => "fixed_window"
  | bucket => "token_bucket"

end RateScript

inductive RedisCommand where
  | ping
  | loadScript (script : RateScript)
  /-- Runs a script that the server has loaded, on one key. -/
  | runScript (script : RateScript) (key : String) (arguments : List String)
  | get (key : String)
  /-- Stores a value that lives for a number of milliseconds. -/
  | set (key value : String) (lifeMs : Int)
  | getFields (key : String) (fields : List String)
  | delete (keys : List String)
deriving DecidableEq

inductive RedisReply where
  | nil
  | int (n : Int)
  | text (s : String)
  | list (items : List RedisReply)

namespace RedisReply

mutual

/-- The reply as a fault shows it. -/
def outline : RedisReply → String
  | nil => "nil"
  | int n => "int(" ++ toString n ++ ")"
  | text s => "bulk-string('" ++ Text.quoted s ++ "')"
  | list items => "array([" ++ ", ".intercalate (itemOutlines items) ++ "])"

def itemOutlines : List RedisReply → List String
  | [] => []
  | item :: rest => outline item :: itemOutlines rest

end

end RedisReply

inductive RedisFault where
  /-- The server signalled an error of a code. -/
  | server (code : String) (detail : Option String)
  /-- A reply that cannot be read as what was asked for. -/
  | mistyped (reason : String) (reply : RedisReply)

namespace RedisFault

/-- The codes that have a name of their own. -/
def codeNames : List (String × String) := [
  ("ERR", "ResponseError"), ("EXECABORT", "ExecAbortError"), ("LOADING", "BusyLoadingError"),
  ("NOSCRIPT", "NoScriptError"), ("MOVED", "Moved"), ("ASK", "Ask"), ("TRYAGAIN", "TryAgain"),
  ("CLUSTERDOWN", "ClusterDown"), ("CROSSSLOT", "CrossSlot"), ("MASTERDOWN", "MasterDown"),
  ("READONLY", "ReadOnly"), ("NOTBUSY", "NotBusy"), ("NOSUB", "NoSub")]

def message : RedisFault → String
  | server code detail =>
    match codeNames.lookup code, detail with
    | some name, some detail =>
      "An error was signalled by the server - " ++ name ++ ": " ++ detail
    | some name, none => "An error was signalled by the server- " ++ name
    | none, detail => code ++ ": " ++ detail.getD "Unknown extension error encountered"
  | mistyped reason reply =>
    "Response was of incompatible type - TypeError: " ++ Text.quoted reason
      ++ " (response was " ++ reply.outline ++ ")"

/-- Whether the server does not know the script that it was to run. -/
def isUnknownScript : RedisFault → Bool
  | server code _ => code == "NOSCRIPT"
  | _ => false

end RedisFault

/-- A way to send commands and have them answered. -/
structure RedisConnection (σ : Type) where
  send : RedisCommand → Act σ RedisFault RedisReply

namespace RedisReply

/-- What is read from a reply. -/
abbrev Reading (α : Type) : Type := RedisReply → Except RedisFault α

/-- Anything at all. -/
def anything : Reading Unit := fun _ => .ok ()

/-- A whole number, taken as it is from a number and by `parse` from a text. -/
def number {α : Type} (ofInt : Int → α) (parse : String → Option α) : Reading α
  | int n => .ok (ofInt n)
  | text s =>
    match parse s with
    | some a => .ok a
    | none => .error (.mistyped "Could not convert from string." (text s))
  | r => .error (.mistyped "Response type not convertible to numeric." r)

def string : Reading String
  | text s => .ok s
  | int n => .ok (toString n)
  | r => .error (.mistyped "Response type not string compatible." r)

/-- Nothing, or what `read` makes of the reply. -/
def orNil {α : Type} (read : Reading α) : Reading (Option α)
  | nil => .ok none
  | r => (read r).map some

def pair {α β : Type} (first : Reading α) (second : Reading β) : Reading (α × β)
  | list [a, b] => do
    let x ← first a
    let y ← second b
    .ok (x, y)
  | list items => .error (.mistyped "Array response of wrong dimension" (list items))
  | r => .error (.mistyped "Not a Array response" r)

end RedisReply

namespace RedisConnection

variable {σ : Type}

/-- Runs a script, which is loaded first if the server does not know it. -/
def run (c : RedisConnection σ) (script : RateScript) (key : String) (arguments : List String) :
    Act σ RedisFault RedisReply := do
  match ← (c.send (.runScript script key arguments)).attempt with
  | .ok reply => pure reply
  | .error fault =>
    if RedisFault.isUnknownScript fault then
      let _ ← c.send (.loadScript script)
      c.send (.runScript script key arguments)
    else .fail fault

end RedisConnection

end Latchkey
