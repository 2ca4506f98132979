import Latchkey.Decimal.Read
import Latchkey.Error
import Latchkey.Text.Quoted
import Latchkey.Url.Reader
/-!
# Configuration of the PostgreSQL connection

Where the database is and how large a pool of connections may be. An address is checked as far as
its text goes before anything is dialled.
-/

namespace Latchkey

structure PostgresConfig where
  url : String := "postgres://localhost/keyward"
  maxConnections : Nat := 10
  minConnections : Nat := 1
  connectTimeoutSecs : Nat := 30
  idleTimeoutSecs : Nat := 600
deriving DecidableEq

namespace PostgresConfig

def connectError (why : String) : Error :=
  .storage ("Failed to connect to PostgreSQL: " ++ why) true

def configurationFault (why : String) : String := "error with configuration: " ++ why

/-- What is wrong with an address. -/
inductive AddressFault where
  | url (fault : UrlFault)
  /-- A part of the URL is no text. -/
  | notText (fault : Utf8.Fault)
  | badEncryption (mode : String)
  | badNumber (fault : NumberFault)
  | badHostAddress
deriving DecidableEq

def AddressFault.message : AddressFault → String
  | url fault => fault.message
  | notText fault => fault.message
  | badEncryption mode =>
    configurationFault ("unknown value " ++ Text.quoted mode ++ " for \x60ssl_mode\x60")
  | badNumber fault => fault.message
  | badHostAddress => "invalid IP address syntax"

def encryptionModes : List String :=
  ["disable", "allow", "prefer", "require", "verify-ca", "verify-full"]

/-- The parts of a URL that have to be texts. A host is one if it is the path of a socket. -/
def textParts (url : Url) : List Bytes :=
  let socket := (url.host.map Percent.bytes).filter (·.head? = some '/'.toUInt8)
  socket.toList ++ [url.user, url.password, url.path.dropWhile (· == '/')].map Percent.bytes

def numberFault? (most : Nat) (value : String) : Option AddressFault :=
  match readBounded most value with
  | .ok _ => none
  | .error fault => some (.badNumber fault)

/-- What is wrong with a parameter of the address. Those with other names may have any value. -/
def parameterFault? (parameter : String × String) : Option AddressFault :=
  let (name, value) := parameter
  match name with
  | "sslmode" | "ssl-mode" =>
    if encryptionModes.contains (String.ofList (value.toList.map Char.toLower)) then none
    else some (.badEncryption value)
  | "statement-cache-capacity" => numberFault? 18446744073709551615 value
  | "hostaddr" =>
    if Address.isIpv4 value.toList || Address.isIpv6 value.toList then none
    else some .badHostAddress
  | "port" => numberFault? 65535 value
  | _ => none

/-- Why an address cannot be connected to, as far as the text shows. -/
def addressFault? (text : String) : Option AddressFault :=
  match Url.read text with
  | .error fault => some (.url fault)
  | .ok url =>
    match (textParts url).findSome? Utf8.firstFault? with
    | some fault => some (.notText fault)
    | none => url.query.findSome? parameterFault?

def checkAddress (c : PostgresConfig) : Except Error Unit :=
  match addressFault? c.url with
  | some fault => .error (connectError (configurationFault fault.message))
  | none => .ok ()

end PostgresConfig

end Latchkey
