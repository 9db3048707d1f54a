import RowGuard.Listing.Basic

/-!
# Expectations

Checks on a listing or on a condition's text that say what they missed.
-/

namespace RowGuard

/-- Whether a value is among others, as values. -/
def Data.isAmong (d : Data) (others : List Data) : Bool :=
  others.any fun other => d.same other

/-- Whether a text occurs in another. -/
def Text.occurs (part : List Char) : List Char → Bool
  | [] => part.isEmpty
  | c :: rest => part.isPrefixOf (c :: rest) || occurs part rest

namespace Listing

/-- Expects every given identity to be listed and, if asked to be exact, no other one. -/
def expectListed (l : Listing) (wanted : List Data) (exact : Bool) : Except Fault Unit :=
  let missing := wanted.filter fun i => !i.isAmong l.identities
  let extra := l.identities.filter fun i => !i.isAmong wanted
  if !missing.isEmpty then .error (.expectation (.notListed missing l.identities))
  else if exact && !extra.isEmpty then .error (.expectation (.unexpected extra wanted))
  else .ok ()

/-- Expects none of the given identities to be listed. -/
def expectNotListed (l : Listing) (unwanted : List Data) : Except Fault Unit :=
  let present := unwanted.filter (·.isAmong l.identities)
  if present.isEmpty then .ok () else .error (.expectation (.listed present l.identities))

end Listing

/-- Expects every given text to occur in a condition. Values that are no texts occur nowhere. -/
def expectContains (sql : Data) (texts : List Data) : Except Fault Unit :=
  match sql.text?, texts.mapM Data.text? with
  | some sql, some texts =>
    let missing := texts.filter fun t => !Text.occurs t.toList sql.toList
    if missing.isEmpty then .ok () else .error (.expectation (.notInFragment missing sql))
  | _, _ => if texts.isEmpty then .ok () else .error (.shape .wrongType)

end RowGuard
