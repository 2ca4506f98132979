import Latchkey.Url.Path
/-!
# Reading URLs

The scheme decides how the text after its colon is read. On a network any number of slashes comes
before the authority. Where nothing is known of the scheme there are two, or else there is no
authority; and without any slash all of the text up to the query is the path.
-/

namespace Latchkey.Url

/-- The text without blanks and control characters around it and line breaks in it. -/
def trimmed (text : String) : List Char :=
  let isEdge (c : Char) : Bool := c ≤ ' '
  (((text.toList.dropWhile isEdge).reverse.dropWhile isEdge).reverse).filter fun c =>
    c ≠ '\t' && c ≠ '\n' && c ≠ '\r'

/-- The scheme in lower case, and what follows its colon. -/
def readScheme? (text : List Char) : Option (String × List Char) :=
  let isPart (c : Char) : Bool := c.isAlphanum || c == '+' || c == '-' || c == '.'
  match text.head?, text.dropWhile isPart with
  | some first, ':' :: rest =>
    if first.isAlpha then some (String.ofList ((text.takeWhile isPart).map Char.toLower), rest)
    else none
  | _, _ => none

/-- A URL up to its path, and the text of the path and the query. -/
abbrev Start : Type := Url × List Char

/-- A URL without authority. -/
def bare (scheme : String) : Url := ⟨scheme, [], [], none, none, [], []⟩

/-- A URL whose authority starts the text. If anything is said of a user there has to be a host. -/
def withAuthority (scheme : String) (text : List Char) : Except UrlFault Start := do
  let kind := SchemeKind.ofScheme scheme
  let ((user, password), text) ← readUser kind text
  let ((host, port), text) ← readHost kind text
  if host.isNone && (user ≠ [] || password ≠ []) then .error .emptyHost
  else .ok ({ bare scheme with user, password, host, port }, text)

def start (scheme : String) (text : List Char) : Except UrlFault Start :=
  match SchemeKind.ofScheme scheme, text with
  | .network, text => withAuthority scheme (text.dropWhile (SchemeKind.isSlash .network))
  | .file, a :: b :: rest => do
    if SchemeKind.isSlash .file a && SchemeKind.isSlash .file b then
      let (host, rest) ← readFileHost rest
      .ok ({ bare scheme with host }, rest)
    else .ok (bare scheme, a :: b :: rest)
  | .other, '/' :: '/' :: rest => withAuthority scheme rest
  | _, text => .ok (bare scheme, text)

/-- The path that a text is. It has no slash at its start only if nothing is known of the scheme:
if there is no path, or no authority before it. -/
def pathOf (kind : SchemeKind) (hasAuthority : Bool) (text : List Char) : List Char :=
  match kind, text with
  | .other, [] => []
  | .other, c :: rest => if hasAuthority || c == '/' then rootedPath kind (c :: rest) else c :: rest
  | kind, text => rootedPath kind text

def read (text : String) : Except UrlFault Url := do
  match readScheme? (trimmed text) with
  | none => .error .noScheme
  | some (scheme, rest) =>
    let hasAuthority := rest.take 2 = ['/', '/']
    let (url, rest) ← start scheme rest
    let whole := rest.takeWhile (· ≠ '#')
    .ok { url with
      path := pathOf (.ofScheme scheme) hasAuthority (whole.takeWhile (· ≠ '?'))
      query := Percent.queryEntries ((whole.dropWhile (· ≠ '?')).drop 1) }

end Latchkey.Url
