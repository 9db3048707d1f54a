import RowGuard.Fault
import RowGuard.Text.Numeral
import RowGuard.Text.Percent
import RowGuard.Yaml.Tag

/-!
# The values of YAML scalars

What the text of a scalar stands for under its tag. A tag can be given to any text, so a text may be
none of the tag's spellings, and then there is no value.
-/

namespace RowGuard.Yaml

/-- A value of the wrong kind. -/
def badValue : Fault := .shape .badValue

/-! ## Numbers -/

/-- The value of a digit of any script, or of a letter that counts as a digit up to f. -/
def digitOf? (c : Char) : Option Nat := (Text.digitValue? c).or (Text.Percent.hexValue? c)

/-- A number in a base of two, eight or sixteen, without a sign; it may begin with the mark of its
base. -/
def inBase? (base : Nat) (cs : List Char) : Option Nat :=
  let mark : Char := if base = 2 then 'b' else if base = 8 then 'o' else 'x'
  let digits :=
    match cs with
    | '0' :: m :: d :: rest => if m.toLower == mark then d :: rest else cs
    | _ => cs
  if digits.isEmpty then none
  else
    digits.foldlM (fun n c => (digitOf? c).bind fun d => if d < base then some (base * n + d) else none) 0

/-- A whole number in a base, with white space around it and a sign. -/
def intIn? (base : Nat) (cs : List Char) : Option Int :=
  if base = 10 then Text.parseInt (String.ofList cs)
  else
    let (negative, digits) := Text.signed (Text.trimNumber cs)
    (inBase? base digits).map fun n => if negative then -(n : Int) else n

/-- A whole number, in whose text underscores do not count. -/
def intValue (s : String) : Except Fault Int := do
  let cs := s.toList.filter (· != '_')
  if cs.isEmpty then throw (.shape .missingItem)
  let (negative, digits) := Text.signed cs
  let read (base : Nat) (ds : List Char) : Except Fault Int := ((intIn? base ds).map .ok).getD (.error badValue)
  let n ←
    match digits with
    | [] => throw (.shape .missingItem)
    | ['0'] => pure 0
    | '0' :: 'b' :: rest => read 2 rest
    | '0' :: 'x' :: rest => read 16 rest
    | '0' :: _ => read 8 digits
    | _ =>
      match Tag.colonParts digits with
      | [_] => read 10 digits
      | parts => parts.foldlM (fun n part => do return 60 * n + (← read 10 part)) 0
  return if negative then -n else n

/-- The sum of numbers in base sixty, the lowest place first. -/
def sixtieths (sum : Binary64) (unit : Nat) : List Binary64 → Except Fault Binary64
  | [] => .ok sum
  | x :: rest =>
    if (Binary64.ofInt? unit).isNone then .error (.shape .outOfRange)
    else sixtieths (sum.add (x.scale unit)) (60 * unit) rest

/-- A number with a fraction, in whose text underscores do not count. -/
def realValue (s : String) : Except Fault Binary64 := do
  let cs := (s.toList.filter (· != '_')).map Char.toLower
  if cs.isEmpty then throw (.shape .missingItem)
  let (negative, digits) := Text.signed cs
  let read (ds : List Char) : Except Fault Binary64 :=
    ((Text.parseReal (String.ofList ds)).map .ok).getD (.error badValue)
  let x ←
    if digits == ".inf".toList then pure (.infinite false)
    else if digits == ".nan".toList then return .nan
    else
      match Tag.colonParts digits with
      | [_] => read digits
      | parts => do sixtieths (.finite 0) 1 (← parts.mapM read).reverse
  return if negative then x.neg else x

/-! ## Times -/

/-- The number of a run of digits. -/
def digitsOf (cs : List Char) : Nat := Text.digitsNumber (cs.takeWhile Char.isDigit)

/-- What follows a run of digits and one more character. -/
def pastDigits (cs : List Char) : List Char := (cs.dropWhile Char.isDigit).drop 1

/-- The distance from universal time in seconds, if one is given. -/
def zoneOf (cs : List Char) : Option Int :=
  match cs.dropWhile fun c => c == ' ' || c == '\t' with
  | [] => none
  | sign :: rest =>
    let seconds : Int := 3600 * digitsOf rest + 60 * digitsOf (pastDigits rest)
    some (if sign == '-' then -seconds else seconds)

/-- The microseconds that the digits after a point write; more than six do not count. -/
def microsOf (cs : List Char) : Nat :=
  let digits := (cs.takeWhile Char.isDigit).take 6
  Text.digitsNumber (digits ++ List.replicate (6 - digits.length) '0')

/-- The time of day after a date. -/
def momentOf? (date : Date) (cs : List Char) : Option Moment :=
  let minutes := pastDigits cs
  let seconds := pastDigits minutes
  let after := seconds.dropWhile Char.isDigit
  let (micro, zone) :=
    match after with
    | '.' :: more => (microsOf more, more.dropWhile Char.isDigit)
    | more => (0, more)
  Moment.ofParts? date (digitsOf cs) (digitsOf minutes) (digitsOf seconds) micro (zoneOf zone)

/-- Whether a text is a date, with one digit or two for month and day. -/
def isDate (cs : List Char) : Bool :=
  match (Tag.afterDigits? 4 4 '-' cs).bind (Tag.afterDigits? 1 2 '-') with
  | some day => (day.length == 1 || day.length == 2) && day.all Char.isDigit
  | none => false

/-- A date or a moment. -/
def timeValue (s : String) : Except Fault Scalar :=
  let cs := Tag.withoutBreak s.toList
  if !isDate cs && !Tag.isTime cs then .error (.shape .noSuchField)
  else
    let months := pastDigits cs
    let days := pastDigits months
    match Date.ofParts? (digitsOf cs) (digitsOf months) (digitsOf days) with
    | none => .error badValue
    | some date =>
      match days.dropWhile Char.isDigit with
      | [] => .ok (.date date)
      | _ :: more =>
        let clock := more.dropWhile fun c => c == ' ' || c == '\t'
        match momentOf? date clock with
        | some m => .ok (.moment m)
        | none => .error badValue

/-! ## Bytes -/

/-- The value of a digit in base 64. -/
def base64Value? (c : Char) : Option Nat :=
  if c.isUpper then some (c.toNat - 65)
  else if c.isLower then some (c.toNat - 71)
  else if c.isDigit then some (c.toNat + 4)
  else if c == '+' then some 62
  else if c == '/' then some 63
  else none

/-- The bytes that digits in base 64 write, after `held` digits of a group of four, whose last bits are
`bits`. A group that ends early is filled up with as many marks as it lacks digits; other characters
do not count. -/
def base64Bytes? (held bits marks : Nat) : List Char → Option (List UInt8)
  | [] => if held = 0 then some [] else none
  | c :: rest =>
    if c == '=' then
      if held < 2 then base64Bytes? held bits marks rest
      else if held + marks + 1 ≥ 4 then some []
      else base64Bytes? held bits (marks + 1) rest
    else
      match base64Value? c with
      | none => base64Bytes? held bits marks rest
      | some d =>
        match held with
        | 0 => base64Bytes? 1 d 0 rest
        | 1 => (base64Bytes? 2 (d % 16) 0 rest).map (UInt8.ofNat (4 * bits + d / 16) :: ·)
        | 2 => (base64Bytes? 3 (d % 4) 0 rest).map (UInt8.ofNat (16 * bits + d / 4) :: ·)
        | _ => (base64Bytes? 0 0 0 rest).map (UInt8.ofNat (64 * bits + d) :: ·)

/-- The bytes that a text in base 64 writes. -/
def bytesValue (s : String) : Except Fault (List UInt8) :=
  if s.toList.any fun c => c.toNat ≥ 128 then .error malformed
  else ((base64Bytes? 0 0 0 s.toList).map .ok).getD (.error malformed)
where
  /-- A document that is no YAML. -/
  malformed : Fault := .policy .unreadableYaml

/-! ## All scalars -/

/-- The truth values by their words in lower case. -/
def truths : List (String × Bool) := [
  ("yes", true), ("no", false), ("true", true), ("false", false), ("on", true), ("off", false)]

/-- The value of a text under a tag; a tag of a collection or an unknown one has none. -/
def scalarValue (tag : Tag) (s : String) : Except Fault Scalar :=
  match tag with
  | .text => .ok (.text s)
  | .null => .ok .null
  | .bool =>
    match truths.lookup (String.ofList (s.toList.map Char.toLower)) with
    | some b => .ok (.bool b)
    | none => .error (.shape .missingKey)
  | .int => .int <$> intValue s
  | .real => .real <$> realValue s
  | .time => timeValue s
  | .bytes => .bytes <$> bytesValue s
  | _ => .error (.policy .unreadableYaml)

end RowGuard.Yaml
