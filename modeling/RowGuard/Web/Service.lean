import RowGuard.Batch.Execution
import RowGuard.Listing.Execution
import RowGuard.Text.Digit
import RowGuard.Web.Address
import RowGuard.Web.Handlers

/-!
# A service over the records application

Routes that list users and documents, look single resources up, and edit roles. A route needs to know
who asks, which evaluator answers and, if it reads or writes rows, on which connection; whatever of these
was not supplied is asked for in that order, and refusing it comes before the complaint that a request
does not name its user. A path with a slash too many at its end is redirected to the one without, if that
one leads to a route.
-/

namespace RowGuard.Web

/-- What a service was supplied with. -/
structure Supplies where
  subject : Bool := true
  evaluator : Option Evaluator
  bind : Option Bind

/-- Who asks, if the request says so. -/
def requester (s : Supplies) (r : Request) : Sys (Option Subject) :=
  if s.subject then return r.user.map fun user => ⟨.text "User", user⟩
  else throw (.notOverridden "get_subject")

/-- The evaluator that was supplied. -/
def suppliedEvaluator (s : Supplies) : Sys Evaluator :=
  match s.evaluator with
  | some e => return e
  | none => throw (.notOverridden "get_evaluator")

/-- The connection that was supplied. -/
def suppliedBind (s : Supplies) : Sys Bind :=
  match s.bind with
  | some b => return b
  | none => throw (.notOverridden "get_bind")

/-- Answers a request of somebody, on rows. -/
def onRows (s : Supplies) (r : Request) (answer : Subject → Evaluator → Bind → Sys Response) :
    Sys Response := do
  let subject ← requester s r
  let evaluator ← suppliedEvaluator s
  let bind ← suppliedBind s
  match subject with
  | some subject => answer subject evaluator bind
  | none => return .malformed

/-- A row of a listing with the permissions held on it. -/
def rowData (v : PermissionVector) : Data :=
  .list [v.identity, .map v.permissions]

/-- A listing as it is answered. -/
def listingResponse (l : Listing) : Response :=
  .accepted [
    ("self", ((l.thisSubject.map (·.identity)).getD .null)),
    ("rows", .list (l.rows.map rowData))]

/-- Lists rows. -/
def listRows (s : Supplies) (r : Request) (listing : Listing.Request) : Sys Response :=
  onRows s r fun subject evaluator bind => do
    return listingResponse (← Listing.list evaluator bind none subject listing)

/-- A resource as it is answered. -/
def resourceResponse (r : Resource) : Response :=
  .accepted [("type", r.type), ("id", r.id)]

/-- Answers with a resource if the requester may do something to it. -/
def requirePermission (s : Supplies) (r : Request) (action type : String)
    (identity : Except Fault Data) : Sys Response := do
  let subject ← requester s r
  let evaluator ← suppliedEvaluator s
  match subject with
  | none => return .malformed
  | some subject =>
    let resource : Resource := ⟨.text type, ← Sys.ofExcept identity⟩
    evaluator.authorize false subject (.text action) resource none
    return resourceResponse resource

/-- A document's number as a path has it. -/
def documentNumber (segment : String) : Except Fault Data :=
  match Text.parseInt segment with
  | some n => .ok (.int n)
  | none => .error (.shape .badValue)

/-- The roles that a request's body gives to users. -/
def rolesOf? : Data → Option (List (String × Data))
  | .map entries => entries.mapM fun (key, value) => do
    return (← key.text?, .text (← value.text?))
  | _ => none

/-- Gives users the roles in the body, all of them or none. -/
def editRoles (s : Supplies) (r : Request) : Sys Response := do
  onRows s r fun subject evaluator bind => do
    match rolesOf? r.body with
    | none => return .malformed
    | some roles =>
      let b ← Batch.planUpdate evaluator none subject {
        action := .text "edit_role"
        type := .text "User"
        targets := roles.map fun (name, role) => ⟨.text name, [("role", role)]⟩
        excludeSelf := true }
      return .accepted [("updated", .int (← Batch.execute bind b))]

/-- The fault that a route for trying faults raises. -/
def sampleFault : String → Fault
  | "denied" =>
    .denied (Denial.ofBatch ⟨.text "User", .text "alice"⟩ (.text "edit_role") (.text "User"))
  | "invalid" => .batch .noTargets
  | "unavailable" => .unavailable "connection refused"
  | "policy" => .policy (.scripted "Action 'publish' is not declared")
  | "data" => .dataAccess "list User"
  | "integrity" => .drift (.scripted "drift")
  | "reuse" => .fragment (.scripted "again")
  | "base" => .unspecified "base"
  | _ => .shape .missingKey

/-- Lists resources of a type with further permissions on them. -/
def listType (s : Supplies) (r : Request) (type : String) (extras : List String)
    (extractSelf : Bool) : Sys Response :=
  listRows s r { type := .text type, extras := extras.map .text, extractSelf }

/-- The method and action of a route. -/
abbrev Route := String × Sys Response

/-- The route that segments lead to. A name in a path is not empty. -/
def routeOf? (s : Supplies) (r : Request) : List String → Option Route
  | ["users"] => some ("GET", listType s r "User" ["edit_role", "delete"] true)
  | ["documents"] => some ("GET", listType s r "Document" ["edit", "delete"] false)
  | ["users", "roles"] => some ("POST", editRoles s r)
  | [kind, name] =>
    if name.isEmpty then none
    else
      match kind with
      | "documents" => some ("GET", requirePermission s r "read" "Document" (documentNumber name))
      | "orgs" =>
        some ("GET", requirePermission s r "create_user" "Organization" (.ok (.text name)))
      | "bad" => some ("GET", requirePermission s r "publish" "Organization" (.ok (.text name)))
      | "raise" => some ("GET", throw (sampleFault name))
      | _ => none
  | _ => none

/-- The segments of a path after its first slash. -/
def segments (path : List Char) : List String :=
  ((Address.splitPath path).drop 1).map String.ofList

/-- The route that a path leads to. A line break at its end may be left out. -/
def routeAt? (s : Supplies) (r : Request) (path : List Char) : Option Route :=
  (routeOf? s r (segments path)).or <|
    if path.getLast? = some '\n' then routeOf? s r (segments path.dropLast) else none

/-- A path without the slashes at its end. -/
def withoutSlashes (path : List Char) : List Char :=
  (path.reverse.dropWhile (· == '/')).reverse

/-- The route that a path leads to, after no more than so many redirections. -/
def route? (s : Supplies) (r : Request) : Nat → List Char → Option Route
  | 0, path => routeAt? s r path
  | n + 1, path =>
    match routeAt? s r path with
    | some route => some route
    | none =>
      if path.getLast? = some '/' && (routeAt? s r (withoutSlashes path)).isSome then
        route? s r n (Address.served (withoutSlashes path))
      else none

/-- How many redirections are followed. -/
def maxRedirections : Nat := 20

/-- Answers a request that leads to a path. Faults are answered too if they are handled. -/
def serveAt (s : Supplies) (handled : Bool) (r : Request) (path : List Char) : Sys Response :=
  match route? s r maxRedirections path with
  | none => return .detail 404 "Not Found"
  | some (method, answer) =>
    if r.method.toUpper != method then return .detail 405 "Method Not Allowed"
    else if handled then answer.handling respond
    else answer

/-- Sends a request and reads its answer. A request for the head alone has an answer without a body,
which cannot be read. -/
def serve (s : Supplies) (handled : Bool) (r : Request) : Sys Response :=
  match Address.ofText? r.address, r.headerFault? with
  | none, _ => throw (.shape .malformedAddress)
  | some _, some fault => throw (.shape fault)
  | some a, none => do
    let response ← serveAt s handled r a.servedPath
    if r.method.toUpper == "HEAD" then throw (.shape .unreadableBody)
    return response

end RowGuard.Web
