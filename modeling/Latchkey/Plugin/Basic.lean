import Latchkey.Plugin.Capability
/-!
# Plugins

A plugin is called at the points of a key's life and may reject what is about to happen. What it
has nothing to say about it lets pass; to fail is not to reject.
-/

namespace Latchkey

/-- A call to plugins, with what there is to see at that point. -/
inductive Hook where
  | beforeCreate (request : CreateRequest)
  /-- The record is stored, and is removed again if a plugin rejects it. -/
  | created (record : KeyRecord)
  | beforeVerify (request : VerifyRequest)
  /-- The record of the presented key, which is not revoked. -/
  | recordLoaded (request : VerifyRequest) (record : KeyRecord)
  | verified (request : VerifyRequest) (record : KeyRecord)

def Hook.phase : Hook → Phase
  | beforeCreate _ => .beforeCreate
  | created _ => .created
  | beforeVerify _ => .beforeVerify
  | recordLoaded _ _ => .recordLoaded
  | verified _ _ => .verified

/-- A plugin of a service whose state is `σ`. What is not given does nothing. -/
structure Plugin (σ : Type) where
  name : String
  /-- The fields of a verification that it cannot do without. -/
  requiredFields : List VerifyField := []
  capabilities : List (Capability σ) := []
  setup : Act σ PluginError Unit := pure ()
  answer : Hook → Act σ PluginError (Option Decision) := fun _ => pure none

end Latchkey
