import RowGuard.Mutation
import RowGuard.Records.Schema
import RowGuard.Session.Statement

/-!
# Requests to the records application

Who asks for a service, which evaluator answers, on which connection and under which configuration. Some
services report a failure instead of raising it: `reporting` turns a denial into the service's own words
and any other fault of the authorization system into that fault's message.
-/

namespace RowGuard.Records

/-- What a service works with. Without a configuration the global one applies. -/
structure Context where
  subject : Subject
  evaluator : Evaluator
  bind : Bind
  config : Option Config := none

/-- What a service reports. -/
inductive Outcome where
  | done (value : Data)
  | failed (reason : String)
deriving DecidableEq

namespace Context

/-- Carries out an action on a resource. -/
def mutate {α : Type} (c : Context) (action : String) (r : Resource) (mutation : Sys α) : Sys α :=
  Mutation.guarded c.evaluator c.bind c.config c.subject ⟨.text action, r⟩ mutation

end Context

/-- Reports the outcome of a service that may be refused or fail. A failure is logged under the given
words; a fault from outside the authorization system is raised. -/
def reporting (channel : Channel) (refusal failure : String) (service : Sys Outcome) : Sys Outcome :=
  service.handling fun f =>
    match f with
    | .denied _ => return .failed refusal
    | other =>
      if other.isAuthz then do
        Sys.log .warning channel (failure ++ " failed: " ++ other.message)
        return .failed other.message
      else throw other

/-- Raises the faults of a service and logs those of the authorization system under the given words. -/
def loggingFaults {α : Type} (channel : Channel) (failure : String) (service : Sys α) : Sys α :=
  service.handling fun f => do
    if f.isAuthz then Sys.log .error channel (failure ++ " failed")
    throw f

/-- An organization as a resource. -/
def organizationResource (name : Data) : Resource := ⟨.text "Organization", name⟩

/-- A user as a resource. -/
def userResource (username : Data) : Resource := ⟨.text "User", username⟩

/-- A document as a resource. -/
def documentResource (id : Data) : Resource := ⟨.text "Document", id⟩

end RowGuard.Records
