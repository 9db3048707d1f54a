/-!
# Tags of YAML nodes

A tag says what a node stands for. `Tag.ofUri` knows the tags of the core types by their full names,
and `Tag.ofPlain` is the tag of a scalar that is written without quotes and without a tag, by the rules
of YAML 1.1: a null, a truth value, a number or a time when it is written like one, and a text
otherwise. So a bare `on` or `yes` is a truth value.
-/

namespace RowGuard.Yaml

/-- What a node stands for. -/
inductive Tag where
  | text
  | bool
  | int
  | real
  | null
  | bytes
  | time
  | merge
  | value
  | list
  | map
  | set
  | pairs
  | other
deriving DecidableEq, Inhabited

namespace Tag

/-- What the names of the core types begin with. -/
def coreUri : String := "tag:yaml.org,2002:"

/-- The core types by their names. -/
def coreNames : List (String × Tag) := [
  ("str", text), ("bool", bool), ("int", int), ("float", real), ("null", null), ("binary", bytes),
  ("timestamp", time), ("merge", merge), ("value", value), ("seq", list), ("map", map), ("set", set),
  ("omap", pairs), ("pairs", pairs)]

/-- The tag with a full name. -/
def ofUri (uri : String) : Tag :=
  ((coreNames.find? fun n => coreUri ++ n.1 == uri).map (·.2)).getD other

/-! ## Plain scalars -/

/-- The spellings of null. -/
def nullWords : List String := ["", "~", "null", "Null", "NULL"]

/-- The spellings of true and false. -/
def boolWords : List String := [
  "yes", "Yes", "YES", "no", "No", "NO", "true", "True", "TRUE", "false", "False", "FALSE", "on",
  "On", "ON", "off", "Off", "OFF"]

/-- A digit or an underscore. -/
def isPlace (c : Char) : Bool := c.isDigit || c == '_'

/-- A digit of a base up to sixteen, or an underscore. -/
def isPlaceOf (base : Nat) (c : Char) : Bool :=
  c == '_' ||
    if base = 16 then c.isDigit || ('a' ≤ c && c ≤ 'f') || ('A' ≤ c && c ≤ 'F')
    else c.isDigit && c.toNat - 48 < base

/-- The parts of a text between colons. -/
def colonParts : List Char → List (List Char)
  | [] => [[]]
  | c :: rest =>
    if c = ':' then [] :: colonParts rest
    else
      match colonParts rest with
      | [] => [[c]]
      | part :: parts => (c :: part) :: parts

/-- Whether a text is a number of minutes or seconds: one digit, or two of which the first is below
six. -/
def isSixtieth : List Char → Bool
  | [a] => a.isDigit
  | [a, b] => a.isDigit && a < '6' && b.isDigit
  | _ => false

/-- Whether a text is a digit and then digits and underscores. -/
def isPlaces (cs : List Char) : Bool :=
  cs.head?.any Char.isDigit && cs.all isPlace

/-- A text without the sign it may begin with. -/
def unsigned : List Char → List Char
  | '-' :: rest | '+' :: rest => rest
  | cs => cs

/-- Whether a text without a sign is a whole number: binary, octal, hexadecimal, decimal or in base
sixty. -/
def isWhole (cs : List Char) : Bool :=
  match cs with
  | ['0'] => true
  | '0' :: 'b' :: digits => !digits.isEmpty && digits.all (isPlaceOf 2)
  | '0' :: 'x' :: digits => !digits.isEmpty && digits.all (isPlaceOf 16)
  | '0' :: digits => digits.all (isPlaceOf 8)
  | _ =>
    match colonParts cs with
    | first :: parts => isPlaces first && parts.all isSixtieth
    | [] => false

/-- Whether a text is empty or an exponent: a mark, a sign and digits. -/
def isExponent : List Char → Bool
  | [] => true
  | [_] => false
  | e :: sign :: digits =>
    (e == 'e' || e == 'E') && (sign == '-' || sign == '+') && !digits.isEmpty &&
      digits.all Char.isDigit

/-- Whether a text is a number with a point. A sign may stand only before a digit. -/
def isReal (cs : List Char) : Bool :=
  let word := String.ofList (unsigned cs)
  let before := (unsigned cs).takeWhile (· != '.')
  match (unsigned cs).dropWhile (· != '.') with
  | _ :: after =>
    let tail := after.dropWhile isPlace
    let pointed := before.isEmpty && cs.head? == some '.'
    [".inf", ".Inf", ".INF"].contains word ||
      (pointed && [".nan", ".NaN", ".NAN"].contains word) ||
      (isPlaces before && isExponent tail) ||
      (pointed && after.head?.any Char.isDigit && isExponent tail) ||
      (match colonParts before with
        | first :: part :: parts =>
          isPlaces first && (part :: parts).all isSixtieth && tail.isEmpty
        | _ => false)
  | [] => false

/-- Whether the characters begin with as many digits, then the mark, and what follows that. -/
def afterDigits? (least most : Nat) (mark : Char) (cs : List Char) : Option (List Char) :=
  let n := (cs.takeWhile Char.isDigit).length
  if least ≤ n && n ≤ most then
    match cs.drop n with
    | c :: rest => if c == mark then some rest else none
    | [] => none
  else none

/-- Whether a text is the distance from universal time: nothing, a letter for none, or a sign with
hours and perhaps minutes. -/
def isZone (cs : List Char) : Bool :=
  match cs.dropWhile fun c => c == ' ' || c == '\t' with
  | [] => cs.isEmpty
  | 'Z' :: rest => rest.isEmpty
  | sign :: rest =>
    let hours := rest.takeWhile Char.isDigit
    let minutes := rest.dropWhile Char.isDigit
    (sign == '+' || sign == '-') && (hours.length == 1 || hours.length == 2) &&
      match minutes with
      | [] => true
      | [':', a, b] => a.isDigit && b.isDigit
      | _ => false

/-- Whether a text is a time of day with seconds. -/
def isClock (cs : List Char) : Bool :=
  match (afterDigits? 1 2 ':' cs).bind (afterDigits? 2 2 ':') with
  | some rest =>
    (rest.takeWhile Char.isDigit).length == 2 &&
      match rest.drop 2 with
      | '.' :: more => isZone (more.dropWhile Char.isDigit)
      | more => isZone more
  | none => false

/-- Whether a text is a date, with two digits for month and day, or a date and a time of day. -/
def isTime (cs : List Char) : Bool :=
  match (afterDigits? 4 4 '-' cs) with
  | none => false
  | some rest =>
    let month := rest.takeWhile Char.isDigit
    match afterDigits? 1 2 '-' rest with
    | none => false
    | some rest =>
      let day := rest.takeWhile Char.isDigit
      let shortDay := day.length == 1 || day.length == 2
      match rest.dropWhile Char.isDigit with
      | [] => month.length == 2 && day.length == 2
      | c :: more =>
        shortDay &&
          if c == 'T' || c == 't' then isClock more
          else (c == ' ' || c == '\t') && isClock (more.dropWhile fun c => c == ' ' || c == '\t')

/-- The text without the line's end it may end with. -/
def withoutBreak (cs : List Char) : List Char :=
  if cs.getLast? == some '\n' then cs.dropLast else cs

/-- The tag of a scalar that is written without quotes. -/
def ofPlain (s : String) : Tag :=
  let cs := withoutBreak s.toList
  let word := String.ofList cs
  if boolWords.contains word then bool
  else if isReal cs then real
  else if isWhole (unsigned cs) then int
  else if word == "<<" then merge
  else if nullWords.contains word && (s == "" || !cs.isEmpty) then null
  else if isTime cs then time
  else if word == "=" then value
  else if ["!", "&", "*"].contains word then other
  else text

end Tag

end RowGuard.Yaml
