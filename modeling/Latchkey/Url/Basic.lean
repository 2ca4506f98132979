/-!
# URLs

The parts of a URL that a connection is made from, and what can be wrong with its text.
-/

namespace Latchkey

/-- Why a text is no URL. -/
inductive UrlFault where
  | noScheme
  | emptyHost
  | badName
  | badPort
  | badIpv4
  | badIpv6
  | badHostCharacter
deriving DecidableEq

def UrlFault.message : UrlFault → String
  | noScheme => "relative URL without a base"
  | emptyHost => "empty host"
  | badName => "invalid international domain name"
  | badPort => "invalid port number"
  | badIpv4 => "invalid IPv4 address"
  | badIpv6 => "invalid IPv6 address"
  | badHostCharacter => "invalid domain character"

/-- What a scheme says about the text after it. -/
inductive SchemeKind where
  /-- There is always a host, and its name is one of the domain name system. -/
  | network
  /-- A path on a host, which is this one if none is named. -/
  | file
  /-- Nothing is known of the scheme. -/
  | other
deriving DecidableEq

namespace SchemeKind

def ofScheme (scheme : String) : SchemeKind :=
  if ["http", "https", "ws", "wss", "ftp"].contains scheme then network
  else if scheme = "file" then file
  else other

/-- Whether a character ends a part of a path. -/
def isSlash (kind : SchemeKind) (c : Char) : Bool := c == '/' || (c == '\\' && kind != other)

/-- Whether a character ends the authority. -/
def endsAuthority (kind : SchemeKind) (c : Char) : Bool := kind.isSlash c || c == '?' || c == '#'

end SchemeKind

structure Url where
  scheme : String
  /-- The user and the password as they are written. -/
  user : List Char
  password : List Char
  /-- None if it is empty or there is no authority. -/
  host : Option (List Char)
  port : Option Nat
  /-- As it is written, without the parts `.` and `..`. -/
  path : List Char
  query : List (String × String)
deriving DecidableEq

/-- The last value that the query gives a name. -/
def Url.parameter? (url : Url) (name : String) : Option String := url.query.reverse.lookup name

end Latchkey
