import RowGuard.System

/-!
# Requests and responses

What a client asks and what it is answered.
-/

namespace RowGuard.Web

/-- A request. The user is the one named by the request's header. -/
structure Request where
  method : String := "GET"
  address : String
  user : Option Data := none
  body : Data := .null

/-- Why the request's header cannot be written: it holds text of ASCII alone. -/
def Request.headerFault? (r : Request) : Option ShapeFault :=
  r.user.bind fun user =>
    match user.text? with
    | none => some .wrongType
    | some name => if name.toList.all fun c => c.toNat < 128 then none else some .unwritableHeader

/-- A response. -/
structure Response where
  status : Nat
  body : Data := .null
deriving DecidableEq

/-- A response that says in words what went wrong. -/
def Response.detail (status : Nat) (message : String) : Response :=
  ⟨status, .record [("detail", .text message)]⟩

/-- A response that accepts. -/
def Response.accepted (fields : List (String × Data)) : Response := ⟨200, .record fields⟩

/-- A request that is not of the form its route expects. -/
def Response.malformed : Response := ⟨422, .null⟩

end RowGuard.Web
