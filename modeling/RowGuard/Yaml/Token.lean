import RowGuard.Text.Digit
import RowGuard.Yaml.Text

/-!
# Tokens of a YAML document

`Token.scan` cuts a document into tokens. A key is known as one only by the value mark after it, so its
own mark is put before tokens that have been cut already: `Key` keeps where a key may have begun, which
is on the line and within 1024 characters of its value mark. A fault in the text is itself the last
token, and it stands before a key that may still have been going on.
-/

namespace RowGuard.Yaml

/-- A piece of a document. -/
inductive Token where
  | directive (version : Option (Nat × Nat)) (handle : Option (String × String))
  | documentStart
  | documentEnd
  | blockSequence
  | blockMapping
  | blockEnd
  | openList
  | closeList
  | openMap
  | closeMap
  | entry
  | item
  | key
  | value
  | alias (name : String)
  | anchor (name : String)
  | tag (handle : Option String) (suffix : String)
  | scalar (text : String) (plain : Bool)
  | fault (f : Fault)
deriving DecidableEq

/-- Where a key may have begun: before which token and at which place. A key that stands where an entry
of a block mapping has to begin is required to be one. -/
structure Key where
  token : Nat
  required : Bool
  index : Nat
  line : Nat
  column : Nat

/-- What has been cut so far, the newest token first, and what decides about the next token: the place,
the keys that may be going on at each depth of brackets, the columns of the open block collections, and
whether a key may begin here. -/
structure Lexer where
  place : Place
  tokens : List Token := []
  keys : List (Nat × Key) := []
  depth : Nat := 0
  indent : Int := -1
  indents : List Int := []
  allowsKey : Bool := true

/-- A step that cuts tokens. What was cut before a fault is kept. -/
abbrev Lex := ExceptT Fault (StateM Lexer)

namespace Lex

/-- Finds the text malformed. -/
def fail {α : Type} : Lex α := throw malformed

/-- What is left of the document. -/
def peek : Lex (List Char) := return (← get).place.rest

/-- Moves to a place. -/
def moveTo (p : Place) : Lex Unit := modify fun s => { s with place := p }

/-- Moves on by some characters. -/
def skip (n : Nat) : Lex Unit := modify fun s => { s with place := s.place.forward n }

/-- Adds a token. -/
def emit (t : Token) : Lex Unit := modify fun s => { s with tokens := t :: s.tokens }

/-- Adds a token before some that have been cut already. -/
def emitAt (number : Nat) (t : Token) : Lex Unit :=
  modify fun s =>
    let newer := s.tokens.length - number
    { s with tokens := s.tokens.take newer ++ t :: s.tokens.drop newer }

/-- Says whether a key may begin at the next token. -/
def allowKey (allowed : Bool) : Lex Unit := modify fun s => { s with allowsKey := allowed }

/-! ## Keys and indentation -/

/-- Whether a key can no longer be going on at a place. -/
def isStale (k : Key) (p : Place) : Bool := k.line != p.line || p.index - k.index > 1024

/-- Gives up the keys that cannot be going on here. -/
def dropStaleKeys : Lex Unit := do
  let s ← get
  let (stale, fresh) := s.keys.partition fun k => isStale k.2 s.place
  if stale.any fun k => k.2.required then fail
  set { s with keys := fresh }

/-- Gives up the key that may be going on at this depth. -/
def dropKey : Lex Unit := do
  let s ← get
  if (s.keys.lookup s.depth).any (·.required) then fail
  set { s with keys := s.keys.filter fun k => k.1 != s.depth }

/-- Notes that a key may begin here. -/
def markKey : Lex Unit := do
  if (← get).allowsKey then
    dropKey
    modify fun s =>
      let p := s.place
      let required := s.depth == 0 && s.indent == p.column
      { s with keys := (s.depth, ⟨s.tokens.length, required, p.index, p.line, p.column⟩) :: s.keys }

/-- Opens a block collection at a column, if it is deeper than the open ones. -/
def openBlock (column : Int) (t : Token) (number : Option Nat) : Lex Unit := do
  let s ← get
  if s.depth == 0 && s.indent < column then
    set { s with indents := s.indent :: s.indents, indent := column }
    match number with
    | some n => emitAt n t
    | none => emit t

/-- Ends the block collections that are deeper than a column. -/
def closeBlocks (column : Int) : Lex Unit :=
  modify fun s =>
    if s.depth != 0 then s
    else
      let ended := (s.indent :: s.indents).takeWhile fun i => decide (column < i)
      let left := (s.indent :: s.indents).drop ended.length
      { s with
        tokens := List.replicate ended.length .blockEnd ++ s.tokens
        indent := left.headD (-1)
        indents := left.drop 1 }

/-! ## Directives, anchors and tags -/

/-- A character of a name. -/
def isNameChar (c : Char) : Bool := c.isAlphanum || c == '-' || c == '_'

/-- The characters that satisfy a test, of which there has to be one. -/
def someChars (test : Char → Bool) : Lex String := do
  let (cs, p) := (← get).place.span test
  if cs.isEmpty then fail
  moveTo p
  return String.ofList cs

/-- A whole number of a directive. -/
def wholeNumber : Lex Nat := do
  match Text.parseInt (← someChars Char.isDigit) with
  | some n => return n.toNat
  | none => throw (.shape .badValue)

/-- Moves over blanks. -/
def skipBlanks : Lex Unit := modify fun s => { s with place := s.place.skipBlanks }

/-- A tag's handle: one exclamation mark, or two with a name between them. -/
def tagHandle : Lex String := do
  match ← peek with
  | '!' :: ' ' :: _ =>
    skip 1
    return "!"
  | '!' :: rest =>
    let name := rest.takeWhile isNameChar
    if rest.drop name.length |>.head? |>.all (· != '!') then fail
    skip (name.length + 2)
    return "!" ++ String.ofList name ++ "!"
  | _ => fail

/-- A character of a tag that stands for itself. -/
def isTagChar (c : Char) : Bool :=
  c.isAlphanum || "-;/?:@&=+$,_.!~*'()[]".toList.contains c

/-- The bytes that a run of percent signs with two digits each writes. -/
def escapedBytes : List Char → Option (List UInt8)
  | '%' :: a :: b :: rest => do
    let byte := UInt8.ofNat (16 * (← Text.Percent.hexValue? a) + (← Text.Percent.hexValue? b))
    return byte :: (← escapedBytes rest)
  | '%' :: _ => none
  | _ => some []

/-- The text of a tag; a percent sign begins an escaped byte. -/
def tagText : Nat → Lex String
  | 0 => fail
  | fuel + 1 => do
    let (cs, p) := (← get).place.span isTagChar
    moveTo p
    match p.rest with
    | '%' :: _ =>
      match escapedBytes p.rest with
      | none => fail
      | some bytes =>
        match String.fromUTF8? ⟨bytes.toArray⟩ with
        | none => fail
        | some decoded =>
          skip (3 * bytes.length)
          return String.ofList cs ++ decoded ++ (← tagText fuel)
    | _ => return String.ofList cs

/-- The text of a tag, which is not empty. -/
def tagUri : Lex String := do
  let before ← peek
  if before.head?.all fun c => !isTagChar c && c != '%' then fail
  tagText (before.length + 1)

/-- A directive after its mark. -/
def directive : Lex Token := do
  let name ← someChars isNameChar
  if !atBlank (← peek) then fail
  let t ←
    if name == "YAML" then
      skipBlanks
      let major ← wholeNumber
      if (← peek).head? != some '.' then fail
      skip 1
      let minor ← wholeNumber
      if !atBlank (← peek) then fail
      pure (.directive (some (major, minor)) none)
    else if name == "TAG" then
      skipBlanks
      let handle ← tagHandle
      if (← peek).head? != some ' ' then fail
      skipBlanks
      let start ← tagUri
      if !atBlank (← peek) then fail
      pure (.directive none (some (handle, start)))
    else
      moveTo (← get).place.skipLine
      pure (.directive none none)
  match (← get).place.endLine? with
  | some p =>
    moveTo p
    return t
  | none => fail

/-- The name of a node after its mark. -/
def anchorName : Lex String := do
  let name ← someChars isNameChar
  let after ← peek
  if !(atGap after || after.head?.any "?:,]\x7d%@`".toList.contains) then fail
  return name

/-- Whether a tag, after its first mark, begins with a handle. -/
def hasHandle (cs : List Char) : Bool :=
  (cs.takeWhile fun c => c != ' ' && !isBreak c).contains '!'

/-- A tag from its first mark on. -/
def tag : Lex Token := do
  let t ←
    match (← peek).drop 1 with
    | '<' :: _ =>
      skip 2
      let suffix ← tagUri
      if (← peek).head? != some '>' then fail
      skip 1
      pure (.tag none suffix)
    | cs =>
      if atGap cs then
        skip 1
        pure (.tag none "!")
      else if hasHandle cs then
        let handle ← tagHandle
        pure (.tag (some handle) (← tagUri))
      else
        skip 1
        pure (.tag (some "!") (← tagUri))
  if !atBlank (← peek) then fail
  return t

/-! ## The next token -/

/-- The place of the next token. Outside of brackets, a key may begin on a new line. -/
def nextPlace (freshLine : Bool) : Nat → Place → Bool × Place
  | 0, p => (freshLine, p)
  | fuel + 1, p =>
    let q := p.skipBlanks.skipComment
    match q.lineBreak? with
    | some (_, r) => nextPlace true fuel r
    | none => (freshLine, q)

/-- Moves to the next token. -/
def toToken : Lex Unit := do
  let s ← get
  let start :=
    if s.place.index == 0 && s.place.rest.head? == some byteOrderMark then s.place.next else s.place
  let (fresh, p) := nextPlace false (start.rest.length + 1) start
  set { s with place := p, allowsKey := s.allowsKey || (fresh && s.depth == 0) }

/-- A token that begins with a mark of one character, before which no key goes on. -/
def mark (t : Token) (allowed : Bool) : Lex Unit := do
  dropKey
  allowKey allowed
  skip 1
  emit t

/-- Ends all block collections for a directive or the mark of a document. -/
def leaveBlocks : Lex Unit := do
  closeBlocks (-1)
  dropKey
  allowKey false

/-- An opening bracket. -/
def opening (t : Token) : Lex Unit := do
  markKey
  modify fun s => { s with depth := s.depth + 1, allowsKey := true }
  skip 1
  emit t

/-- A closing bracket. -/
def closing (t : Token) : Lex Unit := do
  dropKey
  modify fun s => { s with depth := s.depth - 1, allowsKey := false }
  skip 1
  emit t

/-- The mark of an item or of a key in a block collection, which may open the collection. -/
def blockMark (collection t : Token) : Lex Unit := do
  let s ← get
  if s.depth == 0 && !s.allowsKey then fail
  openBlock s.place.column collection none
  let isItem := collection == .blockSequence
  mark t (isItem || s.depth == 0)

/-- The mark of a value. What may have been a key before it is one. -/
def valueMark : Lex Unit := do
  let s ← get
  match s.keys.lookup s.depth with
  | some k =>
    set { s with keys := s.keys.filter fun e => e.1 != s.depth, allowsKey := false }
    emitAt k.token .key
    openBlock k.column .blockMapping (some k.token)
    skip 1
    emit .value
  | none =>
    if s.depth == 0 && !s.allowsKey then fail
    openBlock s.place.column .blockMapping none
    mark .value (s.depth == 0)

/-- A token before which a key may begin and after which none may. -/
def inKey (body : Lex Token) : Lex Unit := do
  markKey
  allowKey false
  let t ← body
  emit t

/-- A scalar that has been read up to a place. -/
def scalarTo (plain : Bool) (r : String × Place) : Lex Token := do
  moveTo r.2
  return .scalar r.1 plain

/-- A block scalar. -/
def blockScalar (fold : Bool) : Lex Unit := do
  allowKey true
  dropKey
  let s ← get
  emit (← scalarTo false (← liftExcept (Yaml.blockScalar fold s.indent s.place)))
where
  /-- The result of a reader of texts. -/
  liftExcept {α : Type} (r : Except Fault α) : Lex α := ExceptT.mk (pure r)

/-- A plain scalar. -/
def plainScalar : Lex Unit :=
  inKey do
    let s ← get
    let (text, crossed, p) := Yaml.plainScalar (s.depth != 0) (s.indent + 1) s.place
    allowKey crossed
    scalarTo true (text, p)

/-- Cuts the next token. The answer says whether the document has ended. -/
def step : Lex Bool := do
  toToken
  dropStaleKeys
  let p := (← get).place
  closeBlocks p.column
  let flow := (← get).depth != 0
  match p.rest with
  | [] =>
    leaveBlocks
    return true
  | c :: rest =>
    if c == '%' && p.column == 0 then
      leaveBlocks
      skip 1
      emit (← directive)
    else if p.column == 0 && atMarker p.rest then
      leaveBlocks
      skip 3
      emit (if c == '-' then .documentStart else .documentEnd)
    else if c == '[' then opening .openList
    else if c == '\x7b' then opening .openMap
    else if c == ']' then closing .closeList
    else if c == '\x7d' then closing .closeMap
    else if c == ',' then mark .entry true
    else if c == '-' && atGap rest then blockMark .blockSequence .item
    else if c == '?' && (flow || atGap rest) then blockMark .blockMapping .key
    else if c == ':' && (flow || atGap rest) then valueMark
    else if c == '*' then
      inKey do
        skip 1
        return .alias (← anchorName)
    else if c == '&' then
      inKey do
        skip 1
        return .anchor (← anchorName)
    else if c == '!' then inKey tag
    else if (c == '|' || c == '>') && !flow then blockScalar (c == '>')
    else if c == '\'' || c == '"' then
      inKey do scalarTo false (← blockScalar.liftExcept (quotedScalar c p))
    else if startsPlain flow p.rest then plainScalar
    else fail
    return false

/-- Cuts all tokens. -/
def steps : Nat → Lex Unit
  | 0 => fail
  | fuel + 1 => do
    if !(← step) then steps fuel

end Lex

/-- The tokens of a document. A fault is met where the first key that may be going on begins. -/
def Token.scan (cs : List Char) : List Token :=
  match Lex.steps (cs.length + 2) { place := { rest := cs } } with
  | (.ok _, s) => s.tokens.reverse
  | (.error f, s) =>
    let tokens := s.tokens.reverse
    match (s.keys.map fun k => k.2.token).min? with
    | some number => tokens.take number ++ [.fault f]
    | none => tokens ++ [.fault f]

end RowGuard.Yaml
