import RowGuard.Text.Percent
import RowGuard.Yaml.Place

/-!
# The texts of YAML scalars

How plain, quoted and block scalars are cut out of the characters of a document. A line break inside
a plain or quoted scalar is folded: one break becomes a blank, more breaks lose one. A break that is a
separator of lines or paragraphs is kept. The fuel of the readers is enough because every call
consumes a character.
-/

namespace RowGuard.Yaml

/-- What a line break and those that follow it are folded to. -/
def folded (first : Char) (more : List Char) : List Char :=
  if first ≠ '\n' then first :: more
  else if more.isEmpty then [' ']
  else more

/-! ## Plain scalars -/

/-- The marks that end a plain scalar inside brackets. -/
def isFlowMark (c : Char) : Bool :=
  c == ',' || c == '?' || c == '[' || c == ']' || c == '\x7b' || c == '\x7d'

/-- Whether a colon with these characters after it is a value mark. -/
def endsKey (flow : Bool) (after : List Char) : Bool :=
  atGap after || (flow && after.head?.any fun c => isFlowMark c && c != '?')

/-- The part of a plain scalar up to a blank or a mark. -/
def plainRun (flow : Bool) : List Char → List Char
  | [] => []
  | c :: rest =>
    if isSpace c || isBreak c || (c == ':' && endsKey flow rest) || (flow && isFlowMark c) then []
    else c :: plainRun flow rest

/-- Whether a plain scalar can begin here. -/
def startsPlain (flow : Bool) : List Char → Bool
  | [] => false
  | c :: rest =>
    if c == '-' then !atGap rest
    else if c == '?' || c == ':' then !flow && !atGap rest
    else !(isSpace c || isBreak c || ",[]\x7b\x7d#&*!|>'\"%@`".toList.contains c)

/-- The line breaks after the first one, with the blanks between them; the flag says whether a
document begins or ends on one of their lines. -/
def plainBreaks : Nat → Place → List Char × Bool × Place
  | 0, p => ([], false, p)
  | fuel + 1, p =>
    match p.lineBreak? with
    | some (c, q) =>
      if atMarker q.rest then ([], true, q)
      else
        let (cs, marked, r) := plainBreaks fuel q
        (c :: cs, marked, r)
    | none => if p.rest.head? == some ' ' then plainBreaks fuel p.next else ([], false, p)

/-- What stands between two parts of a plain scalar: its text, whether a line ended, and the place
after it. There is no text where a document begins or ends. -/
def plainGap (p : Place) : List Char × Bool × Place :=
  let (blanks, q) := p.span (· == ' ')
  match q.lineBreak? with
  | none => (blanks, false, q)
  | some (first, r) =>
    if atMarker r.rest then ([], true, r)
    else
      let (more, marked, after) := plainBreaks (r.rest.length + 1) r
      (if marked then [] else folded first more, true, after)

/-- The rest of a plain scalar, with the gap before it; the flag says whether a line ended after it.
Outside of brackets its lines are indented by at least `indent`. -/
def plainParts (flow : Bool) (indent : Int) : Nat → List Char → Place → List Char × Bool × Place
  | 0, _, p => ([], false, p)
  | fuel + 1, gap, p =>
    let run := if p.rest.head? == some '#' then [] else plainRun flow p.rest
    if run.isEmpty then ([], false, p)
    else
      let (space, crossed, q) := plainGap (p.forward run.length)
      if space.isEmpty || q.rest.head? == some '#' || (!flow && (q.column : Int) < indent) then
        (gap ++ run, crossed, q)
      else
        let (more, crossedLater, r) := plainParts flow indent fuel space q
        (gap ++ run ++ more, if more.isEmpty then crossed else crossedLater, r)

/-- A plain scalar that stands at a place, whether a line ended after it, and the place after it. -/
def plainScalar (flow : Bool) (indent : Int) (p : Place) : String × Bool × Place :=
  let (cs, crossed, q) := plainParts flow indent (p.rest.length + 1) [] p
  (String.ofList cs, crossed, q)

/-! ## Quoted scalars -/

/-- The character a letter after a backslash stands for. -/
def escapeOf? : Char → Option Char
  | '0' => some (Char.ofNat 0)
  | 'a' => some (Char.ofNat 7)
  | 'b' => some (Char.ofNat 8)
  | 't' | '\t' => some '\t'
  | 'n' => some '\n'
  | 'v' => some (Char.ofNat 11)
  | 'f' => some (Char.ofNat 12)
  | 'r' => some '\r'
  | 'e' => some (Char.ofNat 27)
  | ' ' => some ' '
  | '"' => some '"'
  | '\\' => some '\\'
  | '/' => some '/'
  | 'N' => some (Char.ofNat 0x85)
  | '_' => some (Char.ofNat 0xA0)
  | 'L' => some (Char.ofNat 0x2028)
  | 'P' => some (Char.ofNat 0x2029)
  | _ => none

/-- The number of hexadecimal digits a numeric escape has. -/
def escapeWidth? : Char → Option Nat
  | 'x' => some 2
  | 'u' => some 4
  | 'U' => some 8
  | _ => none

/-- The character a run of hexadecimal digits stands for. A number that is no character is out of
range, or of a bad value where 31 binary digits hold it. -/
def codeOf (width : Nat) (cs : List Char) : Except Fault Char :=
  let digits := cs.take width
  match digits.foldlM (fun n c => (Text.Percent.hexValue? c).map fun d => 16 * n + d) 0 with
  | none => .error malformed
  | some code =>
    if digits.length ≠ width then .error malformed
    else if code < 0x110000 then .ok (Char.ofNat code)
    else .error (.shape (if code < 0x80000000 then .badValue else .outOfRange))

/-- The line breaks of a quoted scalar after its first one, with the blanks around them. -/
def quotedBreaks : Nat → Place → Except Fault (List Char × Place)
  | 0, _ => .error malformed
  | fuel + 1, p =>
    if atMarker p.rest then .error malformed
    else
      let (_, q) := p.span isSpace
      match q.lineBreak? with
      | some (c, r) => do
        let (cs, after) ← quotedBreaks fuel r
        return (c :: cs, after)
      | none => .ok ([], q)

/-- What stands between two parts of a quoted scalar. -/
def quotedGap (p : Place) : Except Fault (List Char × Place) :=
  let (blanks, q) := p.span isSpace
  match q.lineBreak? with
  | some (first, r) => do
    let (more, after) ← quotedBreaks (r.rest.length + 1) r
    return (folded first more, after)
  | none => if q.rest.isEmpty then .error malformed else .ok (blanks, q)

/-- What an escape stands for, from the place of its backslash, and the place after it. -/
def escaped (p : Place) : Except Fault (List Char × Place) :=
  let q := p.next
  match q.rest with
  | [] => .error malformed
  | e :: rest =>
    match escapeOf? e, escapeWidth? e with
    | some c, _ => .ok ([c], q.next)
    | none, some width => do return ([← codeOf width rest], q.forward (width + 1))
    | none, none =>
      match q.lineBreak? with
      | some (_, r) => quotedBreaks (r.rest.length + 1) r
      | none => .error malformed

/-- The rest of a quoted scalar, and the place after its last quote. -/
def quotedParts (quote : Char) : Nat → Place → Except Fault (List Char × Place)
  | 0, _ => .error malformed
  | fuel + 1, p =>
    let more (part : List Char × Place) : Except Fault (List Char × Place) := do
      let (cs, after) ← quotedParts quote fuel part.2
      return (part.1 ++ cs, after)
    match p.rest with
    | [] => .error malformed
    | c :: rest =>
      if c == quote then
        if c == '\'' && rest.head? == some '\'' then more (['\''], p.forward 2)
        else .ok ([], p.next)
      else if isSpace c || isBreak c then do more (← quotedGap p)
      else if c == '\\' && quote == '"' then do more (← escaped p)
      else more ([c], p.next)

/-- The quoted scalar that begins at a place, and the place after it. -/
def quotedScalar (quote : Char) (p : Place) : Except Fault (String × Place) := do
  let (cs, q) ← quotedParts quote (p.rest.length + 1) p.next
  return (String.ofList cs, q)

/-! ## Block scalars -/

/-- How the line breaks at the end of a block scalar are kept. -/
inductive Chomping where
  | strip
  | clip
  | keep
deriving DecidableEq

/-- The way of keeping breaks that a mark stands for. -/
def chompingOf? : Char → Option Chomping
  | '+' => some .keep
  | '-' => some .strip
  | _ => none

/-- The marks after the one of a block scalar: how breaks are kept and how far lines are indented,
in either order, and the place after them. -/
def blockMarks (p : Place) : Except Fault (Chomping × Option Nat × Place) := do
  let digit? (q : Place) : Option Nat := q.rest.head?.bind fun c =>
    if c.isDigit then some (c.toNat - 48) else none
  let mark? (q : Place) : Option Chomping := q.rest.head?.bind chompingOf?
  let (chomping, increment, q) :=
    match mark? p, digit? p with
    | some m, _ =>
      match digit? p.next with
      | some n => (m, some n, p.forward 2)
      | none => (m, none, p.next)
    | none, some n =>
      match mark? p.next with
      | some m => (m, some n, p.forward 2)
      | none => (.clip, some n, p.next)
    | none, none => (.clip, none, p)
  if increment == some 0 || !atBlank q.rest then throw malformed
  return (chomping, increment, q)

/-- The empty lines before a block scalar whose indentation is not given, the greatest number of blanks
on one of them or before the first character, and the place there. -/
def blockStart (deepest : Nat) : Nat → Place → List Char × Nat × Place
  | 0, p => ([], deepest, p)
  | fuel + 1, p =>
    match p.lineBreak? with
    | some (c, q) =>
      let (cs, found, after) := blockStart deepest fuel q
      (c :: cs, found, after)
    | none =>
      if p.rest.head? == some ' ' then blockStart (max deepest p.next.column) fuel p.next
      else ([], deepest, p)

/-- The place after the blanks that indent a line, of which at most `indent` count. -/
def indented (indent : Nat) (p : Place) : Place :=
  p.forward ((p.rest.take (indent - p.column)).takeWhile (· == ' ')).length

/-- The line breaks between two lines of a block scalar, with the blanks that indent each line. -/
def blockBreaks (indent : Nat) : Nat → Place → List Char × Place
  | 0, p => ([], p)
  | fuel + 1, p =>
    let q := indented indent p
    match q.lineBreak? with
    | some (c, r) =>
      let (cs, after) := blockBreaks indent fuel r
      (c :: cs, after)
    | none => ([], q)

/-- The lines of a block scalar from a place on: their text, the break that ends the last one, the
empty lines after it and the place there. -/
def blockLines (fold : Bool) (indent : Nat) : Nat → List Char → Place →
    List Char × List Char × List Char × Place
  | 0, empty, p => ([], [], empty, p)
  | fuel + 1, empty, p =>
    if p.column ≠ indent || p.rest.isEmpty then ([], [], empty, p)
    else
      let isText (q : Place) : Bool := !q.rest.head?.any isSpace
      let (line, q) := p.span fun c => !isBreak c
      let (ending, r) :=
        match q.lineBreak? with
        | some (c, r) => ([c], r)
        | none => ([], q)
      let (more, next) := blockBreaks indent (r.rest.length + 1) r
      if next.column = indent && !next.rest.isEmpty then
        let joint :=
          if fold && ending == ['\n'] && isText p && isText next then
            if more.isEmpty then [' '] else []
          else ending
        let (text, last, rest, after) := blockLines fold indent fuel more next
        (empty ++ line ++ joint ++ text, last, rest, after)
      else (empty ++ line, ending, more, next)

/-- The block scalar whose mark stands at a place, in a collection at the column `parent`, and the
place after it. -/
def blockScalar (fold : Bool) (parent : Int) (p : Place) : Except Fault (String × Place) := do
  let (chomping, increment, q) ← blockMarks p.next
  let some start := q.endLine? | throw malformed
  let least := if parent < 0 then 1 else parent.toNat + 1
  let fuel := start.rest.length + 1
  let (indent, empty, first) :=
    match increment with
    | some n =>
      let (empty, first) := blockBreaks (least + n - 1) fuel start
      (least + n - 1, empty, first)
    | none =>
      let (empty, deepest, first) := blockStart 0 fuel start
      (max least deepest, empty, first)
  let (text, ending, rest, after) := blockLines fold indent fuel empty first
  let kept :=
    match chomping with
    | .strip => []
    | .clip => ending
    | .keep => ending ++ rest
  return (String.ofList (text ++ kept), after)

end RowGuard.Yaml
