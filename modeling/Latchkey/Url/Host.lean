import Latchkey.Url.Address
import Latchkey.Url.Basic
import Latchkey.Url.Domain
import Latchkey.Url.Percent
/-!
# The authority of a URL

Between the slashes and the path: who connects, to which host, on which port. Each reader takes its
part from the start of a text and gives back what follows.
-/

namespace Latchkey.Url

open Text

/-- The text before the last `@`, and what follows that. -/
def splitUser? (text : List Char) : Option (List Char × List Char) :=
  let after := (text.reverse.takeWhile (· ≠ '@')).reverse
  if after.length < text.length then some (text.take (text.length - after.length - 1), after)
  else none

/-- The user and the password. An `@` at the start names no user, but then a host has to follow. -/
def readUser (kind : SchemeKind) (text : List Char) :
    Except UrlFault ((List Char × List Char) × List Char) :=
  match splitUser? (text.takeWhile (!kind.endsAuthority ·)) with
  | none => .ok (([], []), text)
  | some (user, _) =>
    let rest := text.drop (user.length + 1)
    if user = [] ∧ rest.head?.any kind.endsAuthority then .error .emptyHost
    else .ok ((user.takeWhile (· ≠ ':'), (user.dropWhile (· ≠ ':')).drop 1), rest)

/-- The text of a host and what follows it. A colon between brackets is part of the host. -/
def splitHost (kind : SchemeKind) (inBrackets : Bool) : List Char → List Char × List Char
  | [] => ([], [])
  | c :: rest =>
    if kind.endsAuthority c || (c == ':' && !inBrackets) then ([], c :: rest)
    else
      let (host, after) := splitHost kind (c == '[' || (inBrackets && c != ']')) rest
      (c :: host, after)

/-- The IPv6 address of a text that starts with a bracket. -/
def bracketedHost (text : List Char) : Except UrlFault (List Char) :=
  if text.getLast? = some ']' ∧ Address.isIpv6 (text.drop 1).dropLast then .ok text
  else .error .badIpv6

/-- Characters that no host contains. -/
def hostStops : List Char :=
  ['\x00', '\t', '\n', '\r', ' ', '#', '/', ':', '<', '>', '?', '@', '[', '\\', ']', '^', '|']

/-- The host of a scheme that nothing is known of. -/
def opaqueHost (text : List Char) : Except UrlFault (List Char) :=
  if text.head? = some '[' then bracketedHost text
  else if text.any hostStops.contains then .error .badHostCharacter
  else .ok text

/-- The host in the domain name system, or with a numeric address. -/
def networkHost (text : List Char) : Except UrlFault (List Char) :=
  if text.head? = some '[' then bracketedHost text
  else
    match Domain.ofBytes? (Percent.bytes text) with
    | none => .error .badName
    | some [] => .error .emptyHost
    | some name =>
      if Address.endsInNumber name && !Address.isNumericIpv4 name then .error .badIpv4 else .ok name

/-- The digits of a port up to the path; none if nothing is written. -/
def readPort (text : List Char) : Except UrlFault (Option Nat × List Char) :=
  let isEnd (c : Char) : Bool := c == '/' || c == '\\' || c == '?' || c == '#'
  let digits := text.takeWhile (!isEnd ·)
  if digits.all Char.isDigit ∧ natOfDigits digits ≤ 65535 then
    .ok (if digits = [] then none else some (natOfDigits digits), text.dropWhile (!isEnd ·))
  else .error .badPort

/-- The host, which is none if it is empty, and the port. An empty host has no port, and a network
always has a host. -/
def readHost (kind : SchemeKind) (text : List Char) :
    Except UrlFault ((Option (List Char) × Option Nat) × List Char) := do
  let (hostText, rest) := splitHost kind false text
  let host ← match kind with
    | .other => opaqueHost hostText
    | _ => if hostText = [] then .error .emptyHost else networkHost hostText
  match rest with
  | ':' :: rest =>
    if host = [] then .error .emptyHost
    else
      let (port, rest) ← readPort rest
      .ok ((some host, port), rest)
  | rest => .ok ((if host = [] then none else some host, none), rest)

/-- A letter and a colon or bar: the name of a drive. -/
def isDrive : List Char → Bool
  | [letter, mark] => letter.isAlpha && (mark == ':' || mark == '|')
  | _ => false

/-- The host of a file, which is all that stands before the path and never has a port. There is
none for this host itself, and none before a drive. -/
def readFileHost (text : List Char) : Except UrlFault (Option (List Char) × List Char) := do
  let hostText := text.takeWhile (!SchemeKind.endsAuthority .file ·)
  if isDrive hostText then .ok (none, text)
  else
    let host ← if hostText = [] then .ok [] else networkHost hostText
    .ok (if host = [] || host == "localhost".toList then none else some host,
      text.drop hostText.length)

end Latchkey.Url
