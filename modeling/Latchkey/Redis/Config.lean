import Latchkey.Decimal.Read
import Latchkey.Limit.Store
import Latchkey.Url.Reader
/-!
# Configuration of the Redis store

Where the server is, under which names state is kept there, and whether the rules run in scripts.
What is logged of the address shows no credentials.
-/

namespace Latchkey

/-- How the store keeps reading and writing together. -/
inductive RedisMode where
  /-- In scripts, so that each request is one step of the server. -/
  | scripted
  /-- In two commands, for servers that run no scripts. -/
  | bestEffort
deriving DecidableEq

structure RedisConfig where
  url : String := "redis://127.0.0.1:6379"
  /-- The start of every name under which state is kept. -/
  keyLabel : String := "keyward:rl"
  mode : RedisMode := .scripted
  /-- Do not run unless every request is one step. -/
  strict : Bool := false
deriving DecidableEq

namespace RedisConfig

def atomicity (c : RedisConfig) : Atomicity :=
  match c.mode with
  | .scripted => .atomic
  | .bestEffort => .bestEffort

def check (c : RedisConfig) : Except Error Unit :=
  if c.strict && !c.atomicity.isAtomic then
    .error (.unsupported "strict rate limiting requires scripted Redis mode")
  else .ok ()

/-- The name of a subject's window. -/
def windowKey (c : RedisConfig) (partition subject : String) : Except LimitFault String := do
  .ok (c.keyLabel ++ ":fw:" ++ (← storageKey partition subject))

/-- The name of a subject's bucket. -/
def bucketKey (c : RedisConfig) (partition subject : String) : Except LimitFault String := do
  .ok (c.keyLabel ++ ":tb:" ++ (← storageKey partition subject))

/-! ## Addresses in logs -/

/-- What comes before the first `://`, and what comes after it. -/
def splitScheme? : List Char → Option (List Char × List Char)
  | [] => none
  | ':' :: '/' :: '/' :: rest => some ([], rest)
  | c :: rest => (splitScheme? rest).map fun (scheme, after) => (c :: scheme, after)

/-- The end of the text from the last `mark` on. -/
def fromLast? (mark : Char) : List Char → Option (List Char)
  | [] => none
  | c :: rest =>
    match fromLast? mark rest with
    | some tail => some tail
    | none => if c = mark then some (c :: rest) else none

/-- The address with all between `://` and the last `@` after it replaced by three stars. -/
def redactedChars (url : List Char) : List Char :=
  match splitScheme? url with
  | none => url
  | some (scheme, rest) =>
    match fromLast? '@' rest with
    | none => url
    | some tail => scheme ++ "://***".toList ++ tail

def redacted (url : String) : String := String.ofList (redactedChars url.toList)

/-! ## Addresses to connect to -/

/-- Why there is nothing to connect to at an address. -/
inductive AddressFault where
  | unreadable
  | noHost
  | noEncryption
  | noPath
  | badDatabase
  | badUser
  | badPassword
  | badProtocol (version : String)
deriving DecidableEq

def AddressFault.message : AddressFault → String
  | unreadable => "Redis URL did not parse- InvalidClientConfig"
  | noHost => "Missing hostname- InvalidClientConfig"
  | noEncryption => "can't connect with TLS, the feature is not enabled- InvalidClientConfig"
  | noPath => "Missing path- InvalidClientConfig"
  | badDatabase => "Invalid database number- InvalidClientConfig"
  | badUser => "Username is not valid UTF-8 string- InvalidClientConfig"
  | badPassword => "Password is not valid UTF-8 string- InvalidClientConfig"
  | badProtocol version => "Invalid protocol version - InvalidClientConfig: " ++ version

/-- Whether the bytes that a part of a URL writes are a text. -/
def isText (part : List Char) : Bool := (Utf8.firstFault? (Percent.bytes part)).isNone

/-- A path without the slashes around it. -/
def withoutSlashes (path : List Char) : List Char :=
  ((path.dropWhile (· == '/')).reverse.dropWhile (· == '/')).reverse

/-- Versions of the protocol between client and server. -/
def protocols : List String := ["2", "resp2", "3", "resp3"]

def protocolFault? (url : Url) : Option AddressFault :=
  ((url.parameter? "protocol").filter (!protocols.contains ·)).map .badProtocol

/-- What is wrong with the address of a host. The path is the number of a database, which may be
left out. -/
def hostFault? (url : Url) : Option AddressFault :=
  let database := String.ofList (withoutSlashes url.path)
  if url.host.isNone then some .noHost
  else if url.scheme = "rediss" then some .noEncryption
  else if !database.isEmpty && (readInt64? database).isNone then some .badDatabase
  else if !isText url.user then some .badUser
  else if !isText url.password then some .badPassword
  else protocolFault? url

/-- What is wrong with the address of a socket, which is a file of this host. The number of a
database is in the query, if it is given. -/
def socketFault? (url : Url) : Option AddressFault :=
  if url.path.head? ≠ some '/' || !url.host.all (· == "localhost".toList) then some .noPath
  else if ((url.parameter? "db").map readInt64?).any Option.isNone then some .badDatabase
  else protocolFault? url

/-- Why an address cannot be connected to, as far as the text shows. -/
def addressFault? (text : String) : Option AddressFault :=
  match Url.read text with
  | .ok url =>
    if url.scheme = "redis" ∨ url.scheme = "rediss" then hostFault? url
    else if url.scheme = "redis+unix" ∨ url.scheme = "unix" then socketFault? url
    else some .unreadable
  | .error _ => some .unreadable

/-- The address to warn of before a store is opened that may let too many requests pass. -/
def warning? (c : RedisConfig) : Option String :=
  if c.check.isOk && !c.atomicity.isAtomic then some (redacted c.url) else none

/-- Checks all that can be checked before there is a connection. -/
def checkAddress (c : RedisConfig) : Except Error Unit := do
  c.check
  match addressFault? c.url with
  | some fault =>
    .error (.rateLimitStore ("Failed to create Redis client: " ++ fault.message) true)
  | none => .ok ()

end RedisConfig

end Latchkey
