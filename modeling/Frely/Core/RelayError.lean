import Frely.Lib.Checked

/-!
# Relay errors

`RelayError` of the core package: a code, a message and the HTTP status the error is answered
with.  Every check of the billing and request-execution packages throws one.
-/

namespace Frely

/-- The error thrown by the domain packages, without its `details`. -/
structure RelayError where
  code : String
  message : String
  status : Nat := 400
deriving DecidableEq, Repr

end Frely
