import FarmScript.Fault
import FarmScript.Text.Numeral

/-! # Failures of a provider

Why a language model gave no completion, and the fault that tells the player. A failure that the
player's own request causes is permanent; trouble on the way or at the provider is temporary.
-/

namespace FarmScript.Tutor
set_option autoImplicit false

/-- Why there is no completion. -/
inductive ProviderFailure where
  | network (reason : String)
  | api (status : UInt16) (message : String)
  | parse (reason : String)
  | rateLimited (retryAfter : Option UInt64)
  | invalidRequest (reason : String)
  | authentication
  | other (reason : String)
deriving DecidableEq

namespace ProviderFailure

/-- A failure in words. -/
def text : ProviderFailure → String
  | network reason => "Network error: " ++ reason
  | api status message => "API error (" ++ Text.numeral status.toNat ++ "): " ++ message
  | parse reason => "Parse error: " ++ reason
  | rateLimited none => "Rate limited"
  | rateLimited (some seconds) =>
    "Rate limited (retry after " ++ Text.numeral seconds.toNat ++ "s)"
  | invalidRequest reason => "Invalid request: " ++ reason
  | authentication => "Authentication failed"
  | other reason => reason

/-- The kind of fault that a failure is. -/
def kind : ProviderFailure → Fault.Kind
  | network _ => .networkFailed
  | api _ _ | other _ => .inferenceFailed
  | parse _ => .parseFailed
  | rateLimited _ => .rateLimited
  | invalidRequest _ => .invalidArgument
  | authentication => .permissionDenied

/-- The fault that reports a failure. A status below 500 will come again. -/
def fault (failure : ProviderFailure) : Fault :=
  let plain := (Fault.of failure.kind failure.text).withOperation "provider::complete"
  let fault := match failure with
    | api status _ =>
      let known := plain.withContext "status" (Text.numeral status.toNat)
      if status < 500 then known.withStatus .permanent else known
    | _ => plain
  fault.withSource failure.text

end ProviderFailure

end FarmScript.Tutor
