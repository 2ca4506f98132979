import Latchkey.Redis.Wire
import Latchkey.Table
import Latchkey.Time.Instant
/-!
# A server of texts

A stand-in for a Redis server keeps texts under keys and a log of what it was sent. It runs no
scripts and keeps nothing with fields: what is answered there has to be prepared, and for any other
command a reply may be prepared too.
-/

namespace Latchkey

/-- A reply laid out for the next command of a kind. -/
inductive LaidOut where
  | reply (r : RedisReply)
  | error (code : String) (detail : Option String)

/-- A command as the server saw it. -/
structure Received where
  command : RedisCommand
  /-- Whether it asked for a script that was not loaded. -/
  unknownScript : Bool := false

structure RedisServer where
  now : Instant := .epoch
  texts : Table String String := .empty
  scripts : List RateScript := []
  /-- The replies laid out, each under the kind of command that it is for. -/
  laidOut : List (String × List LaidOut) := []
  /-- The earliest first. -/
  received : List Received := []

namespace RedisServer

/-- The kind of command under which a reply is laid out. -/
def kind : RedisCommand → String
  | .ping => "PING"
  | .loadScript _ => "SCRIPT"
  | .runScript _ _ _ => "EVALSHA"
  | .get _ => "GET"
  | .set _ _ _ => "SET"
  | .getFields _ _ => "HMGET"
  | .delete _ => "DEL"

/-- The next reply laid out under a kind, and what is left. -/
def takeReply? (kind : String) :
    List (String × List LaidOut) → Option (LaidOut × List (String × List LaidOut))
  | [] => none
  | (name, replies) :: rest =>
    match if name = kind then replies else [] with
    | reply :: others => some (reply, (name, others) :: rest)
    | [] => (takeReply? kind rest).map fun (reply, rest) => (reply, (name, replies) :: rest)

def record (r : Received) (s : RedisServer) : RedisServer :=
  { s with received := s.received ++ [r] }

/-- What the server does with a command that no reply is laid out for. -/
def obey (command : RedisCommand) : Act RedisServer RedisFault RedisReply := do
  match command with
  | .ping => pure (.text "PONG")
  | .loadScript script =>
    Act.update fun s => { s with scripts := script :: s.scripts }
    pure (.text script.name)
  | .runScript _ _ _ | .getFields _ _ => .fail (.server "ERR" (some "no reply prepared"))
  | .get key =>
    let value ← Act.read fun s => s.texts.get? key
    pure ((value.map RedisReply.text).getD .nil)
  | .set key value _ =>
    Act.update fun s => { s with texts := s.texts.insert key value }
    pure (.text "OK")
  | .delete keys =>
    let before ← Act.read fun s => s.texts.size
    Act.update fun s => { s with texts := keys.foldl Table.erase s.texts }
    let after ← Act.read fun s => s.texts.size
    pure (.int (before - after))

def send (command : RedisCommand) : Act RedisServer RedisFault RedisReply := do
  let scripts ← Act.read scripts
  let unknownScript := match command with
    | .runScript script _ _ => !scripts.contains script
    | _ => false
  Act.update (record { command, unknownScript })
  if unknownScript then .fail (.server "NOSCRIPT" (some "No matching script. Please use EVAL."))
  else
    match takeReply? (kind command) (← Act.read laidOut) with
    | none => obey command
    | some (reply, rest) =>
      Act.update fun s => { s with laidOut := rest }
      match reply with
      | .reply r => pure r
      | .error code detail => .fail (.server code detail)

def connection : RedisConnection RedisServer := ⟨send⟩

end RedisServer

end Latchkey
