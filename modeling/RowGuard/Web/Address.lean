import RowGuard.Text.Digit
import RowGuard.Text.Percent

/-!
# Addresses

The address that a client asks for, and the path that it leads to. An address may name a scheme and a
site; one that does not is completed. Its path stands before the query, its dot segments are resolved
as they are written, and it is decoded twice: by the client, and again by the service.
`mem_resolve` says that no dot segment is left.
-/

namespace RowGuard.Web

/-- An address as it is written. -/
structure Address where
  hasScheme : Bool
  site : List Char
  path : List Char

namespace Address

/-- How many characters an address has at most. -/
def maxLength : Nat := 65536

/-- A character of ASCII that cannot be seen. -/
def isControl (c : Char) : Bool := c.toNat < 0x20 || c.toNat == 0x7F

/-- A character that may stand in the name of a scheme. -/
def isSchemeChar (c : Char) : Bool := c.isAlphanum || c == '+' || c == '.' || c == '-'

/-- A character that does not end a path. -/
def isPathChar (c : Char) : Bool := c != '?' && c != '#'

/-- Whether a text begins with a scheme, and what follows it. The name before the colon may be missing. -/
def splitScheme (cs : List Char) : Bool × List Char :=
  let name := cs.takeWhile isSchemeChar
  match cs.dropWhile isSchemeChar with
  | ':' :: rest =>
    if name.isEmpty then (false, rest)
    else if name.head?.any Char.isAlpha then (true, rest)
    else (false, cs)
  | _ => (false, cs)

/-- A site, if slashes introduce one, and what follows it. -/
def splitSite : List Char → List Char × List Char
  | '/' :: '/' :: rest => rest.span fun c => isPathChar c && c != '/'
  | cs => ([], cs)

/-- The host and port of a site, without the account. -/
def hostPort (site : List Char) : List Char :=
  if site.contains '@' then (site.dropWhile (· != '@')).drop 1 else site

/-- Whether the port of a site is a number, if there is one. -/
def hasPort (site : List Char) : Bool :=
  let port := ((hostPort site).dropWhile (· != ':')).drop 1
  port.isEmpty || (Text.parseInt (String.ofList port)).isSome

/-- Whether a path could be taken for something else where neither scheme nor site stands before it. -/
def isAmbiguous (path : List Char) : Bool :=
  "//".toList.isPrefixOf path || ":".toList.isPrefixOf path

/-- Reads an address. -/
def ofText? (text : String) : Option Address :=
  let (hasScheme, rest) := splitScheme text.toList
  let (site, rest) := splitSite rest
  let path := rest.takeWhile isPathChar
  if text.length > maxLength || text.toList.any isControl || !hasPort site ||
      (!hasScheme && site.isEmpty && isAmbiguous path) then none
  else some ⟨hasScheme, site, path⟩

/-- Splits a path at its slashes. -/
def splitPath : List Char → List (List Char)
  | [] => [[]]
  | c :: rest =>
    match splitPath rest with
    | [] => [[c]]
    | segment :: others => if c = '/' then [] :: segment :: others else (c :: segment) :: others

/-- Resolves dot segments after the segments that are given, the last one first: a single dot stands for
nothing, and two dots take the segment before them back. -/
def resolveAfter (before : List (List Char)) : List (List Char) → List (List Char)
  | [] => before.reverse
  | segment :: rest =>
    if segment = ['.'] then resolveAfter before rest
    else if segment = ['.', '.'] then
      resolveAfter (if before = [[]] then before else before.drop 1) rest
    else resolveAfter (segment :: before) rest

/-- The segments of a path without dot segments. -/
def resolve (path : List Char) : List (List Char) := resolveAfter [] (splitPath path)

theorem mem_resolveAfter {segment : List Char} {before rest : List (List Char)}
    (hbefore : ∀ s ∈ before, s ≠ ['.'] ∧ s ≠ ['.', '.'])
    (h : segment ∈ resolveAfter before rest) : segment ≠ ['.'] ∧ segment ≠ ['.', '.'] := by
  induction rest generalizing before with
  | nil => exact hbefore segment (by simpa [resolveAfter] using h)
  | cons next rest ih =>
    unfold resolveAfter at h
    split at h
    · exact ih hbefore h
    · split at h
      · refine ih (fun s hs => ?_) h
        split at hs
        · exact hbefore s hs
        · exact hbefore s (List.mem_of_mem_drop hs)
      · refine ih (fun s hs => ?_) h
        rcases List.mem_cons.mp hs with rfl | hs
        · exact ⟨‹_›, ‹_›⟩
        · exact hbefore s hs

/-- No segment of a resolved path is a dot segment. -/
theorem mem_resolve {segment path : List Char} (h : segment ∈ resolve path) :
    segment ≠ ['.'] ∧ segment ≠ ['.', '.'] :=
  mem_resolveAfter (by simp) h

/-- The path that a written one leads to. -/
def served (path : List Char) : List Char :=
  let resolved := ['/'].intercalate (resolve (path.takeWhile isPathChar))
  if resolved.isEmpty then ['/'] else Text.Percent.decode (Text.Percent.decode resolved)

/-- The path that the address leads to. Without a scheme and a host it is a path of the service. -/
def servedPath (a : Address) : List Char :=
  if a.hasScheme && (hostPort a.site).head?.any (· != ':') then served a.path
  else served ('/' :: a.path.dropWhile (· == '/'))

end Address

end RowGuard.Web
