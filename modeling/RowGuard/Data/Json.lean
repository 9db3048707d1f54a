import RowGuard.Data
import RowGuard.Text.Percent

/-!
# Data as JSON

`Data.ofJson?` reads a JSON text, and `Data.toJson` writes a value as one. A number with a point or an
exponent is one with 53 binary digits, every other number is whole. The infinities and the value that
is no number are written as words. A key that is no text is written as the text of its value. The fuel
of the reader is enough because every call consumes a character.
-/

namespace RowGuard.Data.Json

/-! ## Reading -/

/-- What follows the white space. -/
def skipSpace (cs : List Char) : List Char :=
  cs.dropWhile fun c => c == ' ' || c == '\t' || c == '\n' || c == '\r'

/-- What follows a word, if it stands first. -/
def after? (word : String) (cs : List Char) : Option (List Char) :=
  if word.toList.isPrefixOf cs then some (cs.drop word.length) else none

/-- The number that four hexadecimal digits write, and what follows them. -/
def hex4? (cs : List Char) : Option (Nat × List Char) := do
  let digits := cs.take 4
  if digits.length ≠ 4 then none
  let code ← digits.foldlM (fun n c => (Text.Percent.hexValue? c).map fun d => 16 * n + d) 0
  return (code, cs.drop 4)

/-- The second half of a character that is written as two units of 16 binary digits. -/
def lowHalf? (cs : List Char) : Option (Nat × List Char) := do
  let (code, rest) ← hex4? (← after? "\\u" cs)
  if 0xDC00 ≤ code && code < 0xE000 then some (code, rest) else none

/-- A character written as units of 16 binary digits; half of a pair is replaced. -/
def unit? (cs : List Char) : Option (Char × List Char) := do
  let (code, rest) ← hex4? cs
  if code < 0xD800 || 0xE000 ≤ code then return (Char.ofNat code, rest)
  if code < 0xDC00 then
    match lowHalf? rest with
    | some (low, rest) =>
      return (Char.ofNat (0x10000 + 1024 * (code - 0xD800) + (low - 0xDC00)), rest)
    | none => return (Char.ofNat 0xFFFD, rest)
  return (Char.ofNat 0xFFFD, rest)

/-- The character that a letter after a backslash stands for. -/
def escape? : Char → Option Char
  | '"' => some '"'
  | '\\' => some '\\'
  | '/' => some '/'
  | 'b' => some (Char.ofNat 8)
  | 'f' => some (Char.ofNat 12)
  | 'n' => some '\n'
  | 'r' => some '\r'
  | 't' => some '\t'
  | _ => none

/-- The characters of a text after its first quote, and what follows the last one. -/
def characters? : Nat → List Char → Option (List Char × List Char)
  | 0, _ | _, [] => none
  | fuel + 1, c :: rest =>
    if c = '"' then some ([], rest)
    else if c = '\\' then
      match rest with
      | 'u' :: more => do
        let (d, more) ← unit? more
        let (ds, after) ← characters? fuel more
        return (d :: ds, after)
      | e :: more => do
        let d ← escape? e
        let (ds, after) ← characters? fuel more
        return (d :: ds, after)
      | [] => none
    else do
      let (ds, after) ← characters? fuel rest
      return (c :: ds, after)

/-- The number that ASCII digits write. -/
def digitsNumber (ds : List Char) : Nat :=
  ds.foldl (fun n c => 10 * n + (c.toNat - 48)) 0

/-- An exponent after its mark. -/
def exponent (cs : List Char) : Int :=
  match cs with
  | '-' :: ds => -(digitsNumber ds : Int)
  | '+' :: ds => digitsNumber ds
  | ds => digitsNumber ds

/-- The number that the characters of a JSON number write. -/
def number? (cs : List Char) : Option Scalar :=
  let negative := cs.head? == some '-'
  let unsigned := if negative then cs.drop 1 else cs
  let whole := unsigned.takeWhile Char.isDigit
  let rest := unsigned.dropWhile Char.isDigit
  if whole.isEmpty then none
  else if rest.isEmpty then
    let n : Int := digitsNumber whole
    some (.int (if negative then -n else n))
  else
    let places :=
      match rest with
      | '.' :: more => more.takeWhile Char.isDigit
      | _ => []
    let tail := rest.dropWhile fun c => c != 'e' && c != 'E'
    some (.real (Binary64.ofDigits negative (digitsNumber (whole ++ places))
      (exponent (tail.drop 1) - places.length)))

/-- The words that stand for a value. -/
def words : List (String × Scalar) := [
  ("null", .null), ("true", .bool true), ("false", .bool false), ("NaN", .real .nan),
  ("Infinity", .real (.infinite false)), ("-Infinity", .real (.infinite true))]

/-- The word that stands first, and what follows it. -/
def word? (cs : List Char) : Option (Scalar × List Char) :=
  words.findSome? fun w => (after? w.1 cs).map fun rest => (w.2, rest)

mutual

/-- A value, and what follows it. -/
def value? : Nat → List Char → Option (Data × List Char)
  | 0, _ => none
  | fuel + 1, cs =>
    match skipSpace cs with
    | '"' :: rest => (characters? fuel rest).map fun (ds, after) => (.text (String.ofList ds), after)
    | '[' :: rest =>
      match skipSpace rest with
      | ']' :: after => some (.list [], after)
      | more => (items? fuel more).map fun (xs, after) => (.list xs, after)
    | '\x7b' :: rest =>
      match skipSpace rest with
      | '\x7d' :: after => some (.map [], after)
      | more =>
        -- of entries with one key, the last one counts
        (entries? fuel more).map fun (es, after) =>
          (.map (es.foldl (fun m e => insert e.1 e.2 m) []), after)
    | cs =>
      match word? cs with
      | some (s, after) => some (.scalar s, after)
      | none =>
        let isMark := fun c : Char => c.isDigit || "+-.eE".toList.contains c
        (number? (cs.takeWhile isMark)).map fun s => (.scalar s, cs.dropWhile isMark)

/-- The items of a list up to its end. -/
def items? : Nat → List Char → Option (List Data × List Char)
  | 0, _ => none
  | fuel + 1, cs => do
    let (x, rest) ← value? fuel cs
    match skipSpace rest with
    | ',' :: more =>
      let (xs, after) ← items? fuel more
      return (x :: xs, after)
    | ']' :: after => return ([x], after)
    | _ => none

/-- The entries of a map up to its end. -/
def entries? : Nat → List Char → Option (List (Data × Data) × List Char)
  | 0, _ => none
  | fuel + 1, cs => do
    let (key, rest) ← value? fuel cs
    match skipSpace rest with
    | ':' :: more =>
      let (value, rest) ← value? fuel more
      match skipSpace rest with
      | ',' :: more =>
        let (es, after) ← entries? fuel more
        return ((key, value) :: es, after)
      | '\x7d' :: after => return ([(key, value)], after)
      | _ => none
    | _ => none

end

/-! ## Writing -/

/-- One unit of 16 binary digits as an escape. -/
def escapedUnit (n : Nat) : List Char := '\\' :: 'u' :: Text.hexDigits 4 n

/-- One character of a text between its quotes; one that is not ASCII is written as one or two
escapes. -/
def escaped (c : Char) : List Char :=
  let n := c.toNat
  if c == '"' || c == '\\' then ['\\', c]
  else if 0x20 ≤ n && n < 0x7F then [c]
  else if n < 0x10000 then escapedUnit n
  else
    escapedUnit (0xD800 + (n - 0x10000) / 1024) ++ escapedUnit (0xDC00 + (n - 0x10000) % 1024)

/-- A text between quotes. -/
def quoted (s : String) : String :=
  "\"" ++ String.ofList (s.toList.flatMap escaped) ++ "\""

/-- A scalar without quotes; one that JSON does not know is written as plain text. -/
def bare : Scalar → String
  | .null => "null"
  | .bool b => if b then "true" else "false"
  | .real (.infinite negative) => if negative then "-Infinity" else "Infinity"
  | .real .nan => "NaN"
  | s => s.plain

/-- A scalar. -/
def scalarText : Scalar → String
  | .text s => quoted s
  | .null => bare .null
  | .bool b => bare (.bool b)
  | .int n => bare (.int n)
  | .real x => bare (.real x)
  | s => quoted s.plain

/-- A key. -/
def keyText : Data → String
  | scalar s => quoted (bare s)
  | d => quoted d.shown

mutual

/-- A value. -/
def valueText : Data → String
  | scalar s => scalarText s
  | list items | tuple items | set items => "[" ++ ",".intercalate (itemTexts items) ++ "]"
  | map entries => "\x7b" ++ ",".intercalate (entryTexts entries) ++ "\x7d"

/-- The items of a list. -/
def itemTexts : List Data → List String
  | [] => []
  | x :: xs => valueText x :: itemTexts xs

/-- The entries of a map. -/
def entryTexts : List (Data × Data) → List String
  | [] => []
  | (x, u) :: xs => (keyText x ++ ":" ++ valueText u) :: entryTexts xs

end

end Json

/-- Reads a JSON text. -/
def ofJson? (s : String) : Option Data :=
  let cs := s.toList
  match Json.value? (2 * cs.length + 2) cs with
  | some (d, rest) => if (Json.skipSpace rest).isEmpty then some d else none
  | none => none

/-- Writes a value as a JSON text on one line. -/
def toJson (d : Data) : String := Json.valueText d

end RowGuard.Data
