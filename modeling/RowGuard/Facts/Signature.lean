import RowGuard.Facts.Book
import RowGuard.Policy.Reading
import RowGuard.Text.Blank

/-!
# Reading facts from a document

A fact document maps signatures such as `has_role(User:_, String:_, Organization:_)` to queries, and
entity types to the SQL types of their identities. A signature names the slot of the fact book that
its query fills (`Signature.slot?`).
-/

namespace RowGuard

/-- The place of a fact in a fact book. -/
inductive Slot (ν : Type := String) where
  | role (type : ν)
  | globalRole
  | relation (type rel related : ν)
  | hasAttribute (name type : ν)
deriving DecidableEq

/-- The names that a slot is known by. -/
def Slot.names {ν : Type} : Slot ν → List ν
  | role type => [type]
  | globalRole => []
  | relation type rel related => [type, rel, related]
  | hasAttribute name type => [name, type]

/-- A fact's name and its arguments, as they are written without the blanks around them. -/
structure Signature where
  name : String
  args : List String
deriving DecidableEq

namespace Signature

/-- The parts of a text between the given separators. -/
def splitOn (separator : Char) : List Char → List (List Char)
  | [] => [[]]
  | c :: rest =>
    if c = separator then [] :: splitOn separator rest
    else
      match splitOn separator rest with
      | [] => [[c]]
      | part :: parts => (c :: part) :: parts

/-- Reads a signature: a name of word characters and arguments in round brackets, with blanks only
around them. -/
def parse? (text : String) : Option Signature :=
  let start := Text.stripStart text.toList
  let name := start.takeWhile Text.isWordChar
  match name.isEmpty, Text.stripStart (start.dropWhile Text.isWordChar) with
  | false, '(' :: rest =>
    match rest.dropWhile (· != ')') with
    | ')' :: after =>
      if after.all Text.isBlank then
        some ⟨String.ofList name,
          (splitOn ',' (rest.takeWhile (· != ')'))).map fun part =>
            String.ofList (Text.stripChars part)⟩
      else none
    | _ => none
  | _, _ => none

/-- The type an argument names: what stands before its colon. -/
def entity (arg : String) : String :=
  String.ofList (Text.stripChars (arg.toList.takeWhile (· != ':')))

/-- The slot a signature names. -/
def slot? (s : Signature) : Option Slot :=
  match s.name, s.args with
  | "has_role", [_, _, type] => some (.role (entity type))
  | "has_role", [_, _] => some .globalRole
  | "has_relation", [type, rel, related] => some (.relation (entity type) rel (entity related))
  | name, [type] =>
    match name.toList with
    | 'i' :: 's' :: '_' :: attr => some (.hasAttribute (String.ofList attr) (entity type))
    | _ => none
  | _, _ => none

end Signature

namespace FactBook

section Slots

variable {ν : Type} [Name ν]

/-- The query in a slot. -/
def atSlot? (b : FactBook) : Slot ν → Option FactQuery
  | .role type => b.roles.lookup (Name.toData type)
  | .globalRole => b.globalRoles
  | .relation type rel related =>
    b.relations.lookup (Name.toData type, Name.toData rel, Name.toData related)
  | .hasAttribute name type => b.attributes.lookup (Name.toData name, Name.toData type)

/-- Fills a slot; a query the slot had before is replaced. -/
def fill (b : FactBook) (q : FactQuery) : Slot ν → FactBook
  | .role type => { b with roles := assign (Name.toData type) q b.roles }
  | .globalRole => { b with globalRoles := some q }
  | .relation type rel related =>
    { b with
      relations := assign (Name.toData type, Name.toData rel, Name.toData related) q b.relations }
  | .hasAttribute name type =>
    { b with attributes := assign (Name.toData name, Name.toData type) q b.attributes }

end Slots

private theorem pair_beq_pair {κ ι : Type} [BEq κ] [BEq ι] (a c : κ) (b d : ι) :
    ((a, b) == (c, d)) = (a == c && b == d) := rfl

private theorem isExact_texts (s t u : String) :
    IsExact (Data.text s, Data.text t, Data.text u) :=
  (isExact_text s).pair ((isExact_text t).pair (isExact_text u))

/-- A slot that has been filled holds its query, and the other slots hold what they held. -/
theorem atSlot?_fill (b : FactBook) (q : FactQuery) (s t : Slot) :
    (b.fill q s).atSlot? t = if t = s then some q else b.atSlot? t := by
  cases s <;> cases t <;>
    simp [fill, atSlot?, Name.toData, lookup_assign, isExact_text, isExact_texts, IsExact.pair,
      pair_beq_pair]

/-- Capital letters of a text, as far as they can make a word of the ASCII alphabet: the letters
outside it whose capitals lie within it are the long s, the dotless i and four ligatures. -/
def capitals (s : String) : String :=
  String.ofList <| s.toList.flatMap fun c =>
    match c.toNat with
    | 0x131 => ['I']
    | 0x17F => ['S']
    | 0xDF => ['S', 'S']
    | 0xFB05 | 0xFB06 => ['S', 'T']
    | _ => [c.toUpper]

/-- The SQL types a document can name. -/
def sqlTypeNames : List (String × ColumnType) := [
  ("TEXT", .text), ("VARCHAR", .string), ("STRING", .string), ("INTEGER", .integer),
  ("INT", .integer), ("BIGINT", .bigInteger), ("NUMERIC", .numeric), ("UUID", .uuid),
  ("BOOLEAN", .boolean)]

/-- Reads the name of a SQL type, in any case. Bytes have cases too, but they name no type. -/
def readSqlType (value : Data) : Except Fault ColumnType :=
  match value with
  | .text name =>
    match sqlTypeNames.lookup (capitals name) with
    | some type => .ok type
    | none => .error (.policy (.unknownSqlType value))
  | .scalar (.bytes _) => .error (.policy (.unknownSqlType value))
  | _ => .error (.shape .noSuchField)

/-- The entries of a section, which may be missing or empty. -/
def section? (field : String) (entries : List (Data × Data)) :
    Except Fault (List (Data × Data)) :=
  match (Data.lookup field entries).getD (.map []) with
  | .map items => .ok items
  | other => if other.truthy then .error (.shape .noSuchField) else .ok []

/-- Reads the query of a fact: its text and the names of its columns. -/
def readQuery (sig : String) (body : Data) : Except Fault FactQuery := do
  match body with
  | .map fields =>
    match Data.lookup "query" fields with
    | none => throw (.policy (.noQuery sig))
    | some query =>
      let columns ←
        match Data.lookup "columns" fields with
        | none => pure []
        | some value => (value.items?.elim (.error (.shape .wrongType)) .ok)
      if columns.isEmpty then throw (.policy .noColumns)
      return .sql (Text.strip query.plain) columns
  | _ => throw (.policy (.noQuery sig))

/-- Reads one fact into the book. -/
def readFact (b : FactBook) (entry : Data × Data) : Except Fault FactBook :=
  match entry.1 with
  | .text text =>
    match Signature.parse? text with
    | none => .error (.policy (.malformedSignature text))
    | some sig => do
      let query ← readQuery text entry.2
      match sig.slot? with
      | none => throw (.policy (.unsupportedSignature text))
      | some slot => return b.fill query slot
  | _ => .error (.shape .wrongType)

/-- Reads a fact book from data, which only a map has the sections for. -/
def ofData : Data → Except Fault FactBook
  | .map entries => do
    let book ← (← section? "facts" entries).foldlM readFact {}
    let types ← (← section? "sql_types" entries).foldlM (fun types entry => do
      return assign entry.1 (← readSqlType entry.2) types) []
    return { book with sqlTypes := types }
  | _ => .error (.shape .noSuchField)

/-- Reads a fact book from the data of a document, which has to be a map. -/
def ofDocument (d : Data) : Except Fault FactBook :=
  match d with
  | .map _ => ofData d
  | _ => .error (.policy .factsNotMap)

end FactBook

end RowGuard
