import RowGuard.Fault

/-!
# Places in a YAML document

The characters that YAML gives a meaning between tokens, and the place that a reader has come to: what
is left of the document, and how far from the beginning and from the left edge it stands.
-/

namespace RowGuard.Yaml

/-- A document that is no YAML. -/
def malformed : Fault := .policy .unreadableYaml

/-- Whether a character ends a line. -/
def isBreak (c : Char) : Bool :=
  c == '\n' || c == '\r' || c.toNat == 0x85 || c.toNat == 0x2028 || c.toNat == 0x2029

/-- Whether a character is a blank or a tab. -/
def isSpace (c : Char) : Bool := c == ' ' || c == '\t'

/-- Whether the characters begin with a line's end or are none at all. -/
def atLineEnd : List Char → Bool
  | [] => true
  | c :: _ => isBreak c

/-- Whether the characters begin with a blank or a line's end. -/
def atBlank : List Char → Bool
  | [] => true
  | c :: _ => c == ' ' || isBreak c

/-- Whether the characters begin with a blank, a tab or a line's end. -/
def atGap : List Char → Bool
  | [] => true
  | c :: _ => isSpace c || isBreak c

/-- Whether a line begins with the mark of a document's start or end. -/
def atMarker : List Char → Bool
  | '-' :: '-' :: '-' :: rest | '.' :: '.' :: '.' :: rest => atGap rest
  | _ => false

/-- The mark of byte order, which may stand before a document and has no width. -/
def byteOrderMark : Char := Char.ofNat 0xFEFF

/-- A place in a document. -/
structure Place where
  rest : List Char
  index : Nat := 0
  line : Nat := 0
  column : Nat := 0

namespace Place

/-- The place after the next character. -/
def next (p : Place) : Place :=
  match p.rest with
  | [] => p
  | c :: rest =>
    -- of the two characters that end a line together, the second one does
    if isBreak c && !(c == '\r' && rest.head? == some '\n') then
      ⟨rest, p.index + 1, p.line + 1, 0⟩
    else ⟨rest, p.index + 1, p.line, if c == byteOrderMark then p.column else p.column + 1⟩

/-- The place some characters further on. -/
def forward (p : Place) : Nat → Place
  | 0 => p
  | n + 1 => p.next.forward n

/-- The characters that satisfy a test, and the place after them. -/
def span (p : Place) (test : Char → Bool) : List Char × Place :=
  let cs := p.rest.takeWhile test
  (cs, p.forward cs.length)

/-- The place after the blanks that stand here. -/
def skipBlanks (p : Place) : Place := (p.span (· == ' ')).2

/-- The place at the end of the line. -/
def skipLine (p : Place) : Place := (p.span fun c => !isBreak c).2

/-- What a line's end that stands here is read as, and the place after it. The two separators of
lines and of paragraphs are read as they are, all others as a line feed. -/
def lineBreak? (p : Place) : Option (Char × Place) :=
  match p.rest with
  | '\r' :: '\n' :: _ => some ('\n', p.forward 2)
  | c :: _ =>
    if !isBreak c then none
    else if c.toNat == 0x2028 || c.toNat == 0x2029 then some (c, p.next)
    else some ('\n', p.next)
  | [] => none

/-- The place after a comment, if one stands here. -/
def skipComment (p : Place) : Place :=
  if p.rest.head? == some '#' then p.skipLine else p

/-- The place on the next line, if only blanks and a comment are left on this one. -/
def endLine? (p : Place) : Option Place :=
  let q := p.skipBlanks.skipComment
  if atLineEnd q.rest then some ((q.lineBreak?.map (·.2)).getD q) else none

end Place

end RowGuard.Yaml
