import Latchkey.Service.Config
/-!
# Keys minted offline

Keys and their digests, made without a service and stored by hand later. What a call gives comes
before what the settings say.
-/

namespace Latchkey

structure GenerateOptions where
  kind : Option String := none
  length : Option Nat := none
  label : Option String := none
  count : Nat := 1
deriving DecidableEq

/-- The settings with the options over them. -/
def GenerateOptions.over (o : GenerateOptions) (settings : KeySettings) : KeySettings :=
  { settings with
    label := o.label.getD settings.label
    kind := o.kind.getD settings.kind
    length := o.length.getD settings.length }

/-- A key as it is given out, and the digest that a store keeps. -/
structure MintedKey where
  key : String
  digest : String
deriving DecidableEq

/-- The digest of a key, keyed with a secret if there is one. -/
def digestOf (key : String) (secret : Option String) : String := (Hasher.ofSecret secret).hash key

variable {σ : Type}

/-- Mints `count` keys. -/
def mintKeys (g : Generator) (h : Hasher) (source : Nat → Act σ Error Bytes) :
    Nat → Act σ Error (List MintedKey)
  | 0 => pure []
  | count + 1 => do
    let key ← g.generate source
    let rest ← mintKeys g h source count
    pure (⟨key, h.hash key⟩ :: rest)

/-- Mints as many keys as the options ask for, or none if one cannot be minted. -/
def generateKeys (o : GenerateOptions) (settings : KeySettings)
    (source : Nat → Act σ Error Bytes) : Act σ Error (List MintedKey) := do
  let merged := o.over settings
  let g ← Act.ofExcept (merged.generator .validation)
  mintKeys g (.ofSecret merged.secret) source o.count

end Latchkey
