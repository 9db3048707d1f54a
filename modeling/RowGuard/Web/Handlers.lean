import RowGuard.Web.Message

/-!
# Faults as responses

How the faults of the authorization system are answered. Only a denial and a malformed batch tell the
client what happened; anything else is logged and answered in general words. A fault from outside the
authorization system is not answered at all.
-/

namespace RowGuard.Web

/-- The answer to a fault. -/
def respond (f : Fault) : Sys Response := do
  match f with
  | .denied d => return .detail 403 d.message
  | .batch cause => return .detail 400 cause.message
  | .unavailable message =>
    Sys.log .error .decisions ("Policy evaluator unavailable: " ++ message)
    return .detail 503 "Authorization service unavailable"
  | other =>
    if other.isAuthz then
      Sys.log .error .decisions ("Unhandled " ++ other.name ++ ": " ++ other.message)
      return .detail 500 "Internal server error"
    else throw other

end RowGuard.Web
