import Mathlib

/-!
# Errors and how a call ends

`utils.GenericError` pairs an HTTP status with a message. Its `Error` method is
still the generated stub `panic("implement me")`, so every caller that formats
a `*GenericError` through `.Error()` panics instead of returning. `Outcome`
records the three ways a modelled call ends: a value, an error, or a panic.
-/

namespace Scheduler0.Utils

/-- `utils.GenericError`: the message and the HTTP status in `Type`. -/
structure GenericError where
  message : String
  type : ℕ
deriving DecidableEq, Repr

/-- `utils.HTTPGenericError`. -/
def httpGenericError (httpStatus : ℕ) (errorMessage : String) : GenericError :=
  { type := httpStatus, message := errorMessage }

@[simp] theorem httpGenericError_type (s : ℕ) (m : String) :
    (httpGenericError s m).type = s := rfl

@[simp] theorem httpGenericError_message (s : ℕ) (m : String) :
    (httpGenericError s m).message = m := rfl

/-- The text of the panic raised by `GenericError.Error`. -/
def errorStubPanic : String := "implement me"

/-- The end of a Go call: a returned value, a returned error, or a panic. -/
inductive Outcome (ε α : Type) where
  | ok (a : α)
  | error (e : ε)
  | panic (msg : String)
deriving DecidableEq, Repr

end Scheduler0.Utils
