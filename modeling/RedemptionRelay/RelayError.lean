import RedemptionRelay.Configuration
import RedemptionRelay.Store

/-! # Errors of the relay

Every failure that ends a command has a stable code and a text. Only an
unusable store and failing input or output are worth another try.
-/

namespace RedemptionRelay

inductive RelayError where
  | configuration (error : ConfigurationError)
  | logging (reason : String)
  | storage (error : StoreError)
  | listener (error : StoreError)
  | coordinator (error : StoreError)
  | validation (reason : String)
  | notFound (what : String)
  | io (reason : String)
deriving DecidableEq, Repr

namespace RelayError

def code : RelayError → String
  | .configuration _ => "CONFIG_ERROR"
  | .logging _ => "LOGGING_ERROR"
  | .storage _ => "STORAGE_ERROR"
  | .listener _ => "LISTENER_ERROR"
  | .coordinator _ => "COORDINATOR_ERROR"
  | .validation _ => "VALIDATION_ERROR"
  | .notFound _ => "NOT_FOUND"
  | .io _ => "IO_ERROR"

def message : RelayError → String
  | .configuration error => s!"configuration error: {error.message}"
  | .logging reason => s!"logging error: failed to initialize logging: {reason}"
  | .storage error => s!"storage error: {error.message}"
  | .listener error => s!"listener error: storage error: {error.message}"
  | .coordinator error => s!"coordinator error: storage error: {error.message}"
  | .validation reason => s!"validation error: {reason}"
  | .notFound what => s!"not found: {what}"
  | .io reason => s!"IO error: {reason}"

def isRetryable : RelayError → Bool
  | .storage error | .listener error | .coordinator error => error.isUnavailable
  | .io _ => true
  | _ => false

end RelayError

end RedemptionRelay
