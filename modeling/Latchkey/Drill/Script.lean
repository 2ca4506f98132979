import Latchkey.Drill.Basic
/-!
# Scripted plugins

A script says for each phase what the plugin does to the record and what it answers. Its deeds go
to the store itself and meet no faults.
-/

namespace Latchkey

/-- What a scripted plugin does to the record it is called with. -/
inductive Deed where
  | revoke
  | remove
  | spend
  /-- Stores the record as it was handed over, with no uses left. -/
  | exhaust
  /-- Stores the record as it was handed over, without a limit. -/
  | unlimit
deriving DecidableEq

/-- What a scripted plugin answers. -/
inductive Verdict where
  | hookError (message : String)
  | passedOn (e : Error)
  | decision (d : Decision)
  | silent

structure Cue where
  deed : Option Deed := none
  verdict : Verdict := .silent

structure Script where
  name : String
  requiredFields : List VerifyField := []
  capabilities : List (Capability Drill) := []
  setupError : Option String := none
  cues : List (Phase × Cue) := []

namespace Deed

def run (deed : Deed) (r : KeyRecord) : Act Drill Error Unit := do
  match deed with
  | revoke => Drill.keys.revoke r.id (← Act.read Drill.now)
  | remove =>
    let _ ← Drill.keys.remove r.id
  | spend =>
    let _ ← Drill.keys.spend r.id
  | exhaust => Drill.keys.update { r with uses := some 0 }
  | unlimit => Drill.keys.update { r with uses := none }

end Deed

/-- The record that a call shows. -/
def Hook.record? : Hook → Option KeyRecord
  | created r | recordLoaded _ r | verified _ r => some r
  | _ => none

namespace Script

def log (name : String) (phase : Phase) : Act Drill PluginError Unit :=
  Act.update fun d => { d with calls := d.calls ++ [(name, phase)] }

def perform (cue : Cue) (hook : Hook) : Act Drill PluginError Unit :=
  match cue.deed, hook.record? with
  | some deed, some r => (deed.run r).mapError .passedOn
  | _, _ => pure ()

def answer (s : Script) (hook : Hook) : Act Drill PluginError (Option Decision) := do
  match s.cues.lookup hook.phase with
  | none => pure none
  | some cue =>
    log s.name hook.phase
    perform cue hook
    match cue.verdict with
    | .hookError message => .fail (.hookFailed s.name message)
    | .passedOn e => .fail (.passedOn e)
    | .decision d => pure (some d)
    | .silent => pure none

def plugin (s : Script) : Plugin Drill where
  name := s.name
  requiredFields := s.requiredFields
  capabilities := s.capabilities
  setup :=
    match s.setupError with
    | some message => .fail (.setupFailed s.name message)
    | none => pure ()
  answer := s.answer

end Script

end Latchkey
