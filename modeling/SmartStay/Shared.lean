/-!
# Errors of the shared state

The fields of the errors that the stores throw, and the one that a failed command becomes.
-/

namespace SmartStay

/-- The fields of an `OperationalStateError`, a `SearchSessionError` or a
`SearchIdempotencyError`. -/
structure StoreError where
  code : String
  message : String
  status : Nat
  retryable : Bool := false
  retryAfterMs : Option Nat := none
deriving DecidableEq, Repr

def createOperationalStateUnavailableError : StoreError :=
  { code := "OPERATIONAL_STATE_UNAVAILABLE"
    message :=
      "Shared operational state is temporarily unavailable. Please try again shortly."
    status := 503
    retryable := true
    retryAfterMs := some 500 }

end SmartStay
