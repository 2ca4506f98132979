import Latchkey.Json.Basic
/-!
# Errors

An error is a cause, and everything shown of it follows from the cause: its code, its message,
whether a retry can help, and the payload that callers receive. A failure of the key store keeps
the store's own error as its cause and is worth a retry exactly when that one is.
-/

namespace Latchkey

/-- The kinds of error that callers tell apart. -/
inductive ErrorCode where
  | keystoreReadFailed
  | keystoreWriteFailed
  | keystoreRevokeFailed
  | keyGenerationFailed
  | pluginBlocked
  | pluginSetupFailed
  | analyticsTrackFailed
  | sweepUnsupported
  | rateLimitStoreFailed
  | unsupportedOperation
  | validationFailed
  | storageFailed
  | configurationFailed
deriving DecidableEq

namespace ErrorCode

def all : List ErrorCode :=
  [keystoreReadFailed, keystoreWriteFailed, keystoreRevokeFailed, keyGenerationFailed,
    pluginBlocked, pluginSetupFailed, analyticsTrackFailed, sweepUnsupported, rateLimitStoreFailed,
    unsupportedOperation, validationFailed, storageFailed, configurationFailed]

def text : ErrorCode → String
  | keystoreReadFailed => "KEYSTORE_READ_FAILED"
  | keystoreWriteFailed => "KEYSTORE_WRITE_FAILED"
  | keystoreRevokeFailed => "KEYSTORE_REVOKE_FAILED"
  | keyGenerationFailed => "KEY_GENERATION_FAILED"
  | pluginBlocked => "PLUGIN_BLOCKED"
  | pluginSetupFailed => "PLUGIN_SETUP_FAILED"
  | analyticsTrackFailed => "ANALYTICS_TRACK_FAILED"
  | sweepUnsupported => "SWEEP_UNSUPPORTED"
  | rateLimitStoreFailed => "RATE_LIMIT_STORE_FAILED"
  | unsupportedOperation => "UNSUPPORTED_OPERATION"
  | validationFailed => "VALIDATION_FAILED"
  | storageFailed => "STORAGE_FAILED"
  | configurationFailed => "CONFIGURATION_FAILED"

def ofText? (text : String) : Option ErrorCode := all.find? fun code => code.text = text

end ErrorCode

/-- What the service was doing with the key store when the store failed. -/
inductive StoreAccess where
  | read
  | write
  | revoke
deriving DecidableEq

inductive Error where
  /-- The key store failed; `cause` is what it said. -/
  | keystore (access : StoreAccess) (message : String) (cause : Option Error)
  | keyGeneration (message : String)
  | pluginBlocked (plugin reason : String)
  | pluginSetup (plugin message : String)
  | analyticsTrack (event message : String)
  | sweepUnsupported (message : String)
  | rateLimitStore (message : String) (retryable : Bool)
  | unsupported (message : String)
  | validation (message : String)
  | storage (message : String) (retryable : Bool)
  | configuration (message : String)

namespace Error

def code : Error → ErrorCode
  | keystore .read _ _ => .keystoreReadFailed
  | keystore .write _ _ => .keystoreWriteFailed
  | keystore .revoke _ _ => .keystoreRevokeFailed
  | keyGeneration _ => .keyGenerationFailed
  | pluginBlocked _ _ => .pluginBlocked
  | pluginSetup _ _ => .pluginSetupFailed
  | analyticsTrack _ _ => .analyticsTrackFailed
  | sweepUnsupported _ => .sweepUnsupported
  | rateLimitStore _ _ => .rateLimitStoreFailed
  | unsupported _ => .unsupportedOperation
  | validation _ => .validationFailed
  | storage _ _ => .storageFailed
  | configuration _ => .configurationFailed

def message : Error → String
  | keystore .read m _ => "Key store read failed: " ++ m
  | keystore .write m _ => "Key store write failed: " ++ m
  | keystore .revoke m _ => "Key store revoke failed: " ++ m
  | keyGeneration m => "Key generation failed: " ++ m
  | pluginBlocked plugin reason => "Blocked by plugin '" ++ plugin ++ "': " ++ reason
  | pluginSetup plugin m => "Plugin setup failed for '" ++ plugin ++ "': " ++ m
  | analyticsTrack event m => "Analytics tracking failed for '" ++ event ++ "': " ++ m
  | sweepUnsupported m => "Sweep unsupported: " ++ m
  | rateLimitStore m _ => "Rate limit store error: " ++ m
  | unsupported m => "Unsupported operation: " ++ m
  | validation m => "Validation error: " ++ m
  | storage m _ => "Storage error: " ++ m
  | configuration m => "Configuration error: " ++ m

/-- The error behind a failure of the key store. -/
def cause? : Error → Option Error
  | keystore _ _ cause => cause
  | _ => none

/-- Whether the same call may succeed later. -/
def retryable : Error → Bool
  | keystore _ _ (some cause) => cause.retryable
  | rateLimitStore _ flag => flag
  | storage _ flag => flag
  | _ => false

/-- What a plugin or event has to do with the error. -/
def details : Error → List (String × Json)
  | pluginBlocked plugin reason => [("plugin", .string plugin), ("reason", .string reason)]
  | pluginSetup plugin _ => [("plugin", .string plugin)]
  | analyticsTrack event _ => [("event", .string event)]
  | _ => []

/-- The error as callers receive it. -/
def payload (e : Error) : Json :=
  .object (
    [("code", .string e.code.text), ("message", .string e.message),
      ("retryable", .bool e.retryable)]
    ++ Json.optional "cause" (e.cause?.map fun c => .string c.message)
    ++ (if e.details.isEmpty then [] else [("meta", .object e.details)]))

end Error

/-- Errors of plugins. -/
inductive PluginError where
  | alreadyRegistered (plugin : String)
  | setupFailed (plugin message : String)
  | hookFailed (plugin message : String)
  | configuration (plugin message : String)
  /-- An error that the plugin met and passes on as it is. -/
  | passedOn (e : Error)

namespace PluginError

def message : PluginError → String
  | alreadyRegistered plugin => "Plugin already registered: " ++ plugin
  | setupFailed plugin m => "Plugin setup failed for '" ++ plugin ++ "': " ++ m
  | hookFailed plugin m => "Hook failed in '" ++ plugin ++ "': " ++ m
  | configuration plugin m => "Configuration error for '" ++ plugin ++ "': " ++ m
  | passedOn e => e.message

end PluginError

end Latchkey
