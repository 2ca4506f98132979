import Latchkey.Plugin.Basic
/-!
# The pipeline of plugins

Plugins are called in the order of their registration until one rejects. One that fails is passed
over: it can neither reject nor keep a later one from rejecting.
-/

namespace Latchkey

/-- That a plugin rejected, and why. -/
structure Rejection where
  plugin : String
  reason : String
deriving DecidableEq

abbrev Pipeline (σ : Type) : Type := List (Plugin σ)

namespace Pipeline

variable {σ : Type}

def names (ps : Pipeline σ) : List String := ps.map (·.name)

/-- The pipeline with a plugin at its end; no two may have one name. -/
def register (ps : Pipeline σ) (p : Plugin σ) : Except PluginError (Pipeline σ) :=
  if ps.names.contains p.name then .error (.alreadyRegistered p.name) else .ok (ps ++ [p])

/-- The plugins registered one by one. -/
def ofPlugins (plugins : List (Plugin σ)) : Except PluginError (Pipeline σ) :=
  plugins.foldlM register []

/-- Sets all plugins up and answers with the errors met. -/
def setupAll {ε : Type} : Pipeline σ → Act σ ε (List PluginError)
  | [] => pure []
  | p :: ps => do
    let result ← p.setup.attempt
    let errors ← setupAll ps
    pure (match result with
      | .ok _ => errors
      | .error e => e :: errors)

/-- The rejection that a plugin's answer amounts to. -/
def rejection? (p : Plugin σ) : Except PluginError (Option Decision) → Option Rejection
  | .ok (some d) => if d.reject then some ⟨p.name, d.reason.getD Reason.rejected⟩ else none
  | _ => none

/-- The first rejection, if there is one. No plugin after it is called. -/
def run (hook : Hook) : Pipeline σ → Act σ Error (Option Rejection)
  | [] => pure none
  | p :: ps => do
    match rejection? p (← (p.answer hook).attempt) with
    | some r => pure (some r)
    | none => run hook ps

/-- A field, with the first plugin that requires it. -/
def addField (acc : List (String × VerifyField)) (plugin : String) (field : VerifyField) :
    List (String × VerifyField) :=
  if acc.any (·.2 = field) then acc else acc ++ [(plugin, field)]

/-- Each required field once, in the order in which plugins ask for them. -/
def requiredFields (ps : Pipeline σ) : List (String × VerifyField) :=
  ps.foldl (fun acc p => p.requiredFields.foldl (addField · p.name) acc) []

/-- All that plugins offer; of offers under one name the last counts. -/
def capabilities (ps : Pipeline σ) : Capabilities σ :=
  .ofList (ps.flatMap (·.capabilities))

end Pipeline

end Latchkey
