import Latchkey.Drill.Read
import Latchkey.Json.Reader
import Latchkey.Redis.Config
import Latchkey.Redis.Server
/-!
# A Redis server in a drill

The replies that a drill lays out for the server, and what it shows of the commands that came there.
-/

namespace Latchkey

namespace Received

/-- The command as words; a stored value as the JSON that it is. -/
def toJson (r : Received) : Json :=
  let words (l : List String) : Json := .array (l.map .string)
  match r.command with
  | .ping => words ["PING"]
  | .loadScript script => words ["SCRIPT LOAD", script.name]
  | .runScript script key arguments =>
    words (["EVALSHA", if r.unknownScript then "not_loaded" else script.name, "1", key]
      ++ arguments)
  | .get key => words ["GET", key]
  | .set key value lifeMs =>
    .array [.string "SET", .string key, (Json.read? value).getD (.string value), .string "PX",
      .string (toString lifeMs)]
  | .getFields key fields => words ("HMGET" :: key :: fields)
  | .delete keys => words ("DEL" :: keys)

end Received

namespace Read

mutual

def redisReply : Json → Read RedisReply
  | .null => .ok .nil
  | .int n => if -9223372036854775808 ≤ n ∧ n ≤ 9223372036854775807 then .ok (.int n) else fail
  | .string s => .ok (.text s)
  | .array items => (redisReplies items).map .list
  | _ => fail

def redisReplies : List Json → Read (List RedisReply)
  | [] => .ok []
  | j :: rest => do
    let r ← redisReply j
    let others ← redisReplies rest
    .ok (r :: others)

end

/-- A reply, or the text of an error: its code, and what follows it. -/
def laidOut (j : Json) : Read LaidOut := do
  match ← may string j "err" with
  | some text =>
    match text.splitOn " " with
    | [] => fail
    | [code] => return .error code none
    | code :: rest => return .error code (some (" ".intercalate rest))
  | none => return .reply (← redisReply j)

def laidOutEntries (j : Json) : Read (List (String × List LaidOut)) :=
  match j with
  | .object entries => entries.mapM fun (kind, replies) => do
    let replies ← items laidOut replies
    .ok (kind, replies)
  | _ => fail

def redisConfig (j : Json) : Read RedisConfig := do
  let defaults : RedisConfig := {}
  return {
    url := ← withDefault defaults.url string j "url"
    keyLabel := ← withDefault defaults.keyLabel string j "key_prefix"
    mode := if ← withDefault false flag j "best_effort" then .bestEffort else .scripted
    strict := ← withDefault false flag j "strict" }

end Read

end Latchkey
