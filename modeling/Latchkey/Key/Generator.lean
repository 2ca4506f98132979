import Latchkey.Act
import Latchkey.Error
import Latchkey.Text.Base64
import Latchkey.Text.Crockford
import Latchkey.Text.Lower
import Latchkey.Text.Uuid
/-!
# Generating keys

A key is a label followed by a body of random characters. A body of `n` characters is made of the
fewest random bytes that have as many bits as the characters show: `ceil (3 n / 4)` for URL-safe
text, `ceil (n / 2)` for hexadecimal, and one byte a character for base 32.
-/

namespace Latchkey

/-- A program that draws random bytes and ends with a text or an error. -/
inductive Recipe where
  | done (result : Except Error String)
  /-- Draws a number of bytes and goes on with them, or with the error of the source. -/
  | draw (count : Nat) (next : Except Error Bytes → Recipe)

/-- Runs a recipe on a source of bytes. -/
def Recipe.run {σ : Type} (source : Nat → Act σ Error Bytes) : Recipe → Act σ Error String
  | .done result => .ofExcept result
  | .draw count next => do
    let bytes ← (source count).attempt
    (next bytes).run source

/-- The shape of the random part of a key. -/
inductive KeyKind where
  | uuid
  /-- URL-safe base 64, so many characters. -/
  | urlSafe (length : Nat)
  | hex (length : Nat)
  | crockford (length : Nat)
  /-- A text of the caller's own, used as it is and without a label. -/
  | custom (recipe : Recipe)

namespace KeyKind

/-- How many random bytes a body takes. -/
def byteCount : KeyKind → Nat
  | uuid => 16
  | urlSafe n => (n * 3 + 3) / 4
  | hex n => (n + 1) / 2
  | crockford n => n
  | custom _ => 0

/-- The body that random bytes make. -/
def body : KeyKind → Bytes → String
  | uuid, bytes => String.ofList (Uuid.chars bytes)
  | urlSafe n, bytes => String.ofList ((Base64Url.chars bytes).take n)
  | hex n, bytes => String.ofList ((Hex.chars bytes).take n)
  | crockford _, bytes => String.ofList (Crockford.chars bytes)
  | custom _, _ => ""

/-- The kind of a configured name, in any case. -/
def ofName (name : String) (length : Nat) : Except Error KeyKind :=
  match Text.lower name with
  | "uuid" => .ok uuid
  | "url_safe" | "urlsafe" | "base64" => .ok (urlSafe length)
  | "hex" => .ok (hex length)
  | "base32" | "base32_crockford" | "crockford" => .ok (crockford length)
  | _ => .error (.configuration
      ("Unknown key kind: " ++ name ++ ". Valid kinds: uuid, url_safe, hex, base32"))

def debugText : KeyKind → String
  | uuid => "Uuid"
  | urlSafe n => "UrlSafe(" ++ toString n ++ ")"
  | hex n => "Hex(" ++ toString n ++ ")"
  | crockford n => "Base32Crockford(" ++ toString n ++ ")"
  | custom _ => "Custom(<fn>)"

end KeyKind

/-- What keys look like. -/
structure Generator where
  label : String := ""
  kind : KeyKind := .urlSafe 32

namespace Generator

/-- A key with the given label. No bytes are drawn for an empty body. -/
def recipe (g : Generator) (label : String) : Recipe :=
  match g.kind with
  | .custom recipe => recipe
  | kind =>
    if kind.byteCount = 0 then .done (.ok (label ++ kind.body []))
    else .draw kind.byteCount fun bytes => .done (bytes.map fun bytes => label ++ kind.body bytes)

/-- Generates a key with the given label. -/
def generateWith {σ : Type} (g : Generator) (label : String) (source : Nat → Act σ Error Bytes) :
    Act σ Error String :=
  (g.recipe label).run source

/-- Generates a key with the configured label. -/
def generate {σ : Type} (g : Generator) (source : Nat → Act σ Error Bytes) : Act σ Error String :=
  g.generateWith g.label source

end Generator

end Latchkey
