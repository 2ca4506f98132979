import Latchkey.Url.Host
/-!
# Paths of URLs

A path is a row of parts with slashes between them. On reading, a part `.` is dropped, and a part
`..` takes the part before it away, unless that is a drive.
-/

namespace Latchkey.Url

/-- A part of a path in lower case and with its percent-encoded points shown. -/
def plainPart : List Char → List Char
  | '%' :: '2' :: c :: rest =>
    if c == 'e' || c == 'E' then '.' :: plainPart rest else '%' :: '2' :: c :: plainPart rest
  | c :: rest => c :: plainPart rest
  | [] => []

def isHere (part : List Char) : Bool := plainPart part == ['.']

def isUp (part : List Char) : Bool := plainPart part == ['.', '.']

/-- The parts, the last of them first, without the last. -/
def parent : List (List Char) → List (List Char)
  | [] => []
  | part :: before => if isDrive part then part :: before else before

/-- The path of the parts that are left; `before` are those passed, the last of them first. -/
def joinParts (before : List (List Char)) : List (List Char) → List Char
  | [] => []
  | [last] =>
    let ended := if isUp last then [] :: parent before
      else if isHere last then [] :: before
      else last :: before
    '/' :: ['/'].intercalate ended.reverse
  | part :: rest =>
    if isUp part then joinParts (parent before) rest
    else if isHere part then joinParts before rest
    else joinParts (part :: before) rest

/-- The parts between slashes. -/
def splitParts (kind : SchemeKind) : List Char → List (List Char)
  | [] => [[]]
  | c :: rest =>
    if kind.isSlash c then [] :: splitParts kind rest
    else
      match splitParts kind rest with
      | part :: others => (c :: part) :: others
      | [] => [[c]]

/-- The path of a text, with or without the slash at its start. -/
def rootedPath (kind : SchemeKind) (text : List Char) : List Char :=
  let body := match text with
    | c :: rest => if kind.isSlash c then rest else text
    | [] => []
  joinParts [] (splitParts kind body)

end Latchkey.Url
