import RowGuard.Number.Binary64
import RowGuard.Text.Digit

/-!
# Numbers with a fraction in text

`decimal?` reads an unsigned number in decimal digits with a point and an exponent. `parseReal` reads a
number as people type one, with white space around it, a sign, digits of any script and single
underscores between them, or the name of an infinity; `isNumeral` is the wider form that numbers of any
precision have.
-/

namespace RowGuard.Text

/-- The number that ASCII digits write. -/
def digitsNumber (ds : List Char) : Nat :=
  ds.foldl (fun n c => 10 * n + (c.toNat - 48)) 0

/-- The exponent after its mark: a sign and at least one digit. -/
def exponent? (cs : List Char) : Option Int :=
  let (negative, digits) :=
    match cs with
    | '-' :: rest => (true, rest)
    | '+' :: rest => (false, rest)
    | _ => (false, cs)
  if digits.isEmpty || !digits.all Char.isDigit then none
  else
    let n : Int := digitsNumber digits
    some (if negative then -n else n)

/-- An unsigned number in ASCII digits: the digits with a point among, before or after them, and an
exponent, of which only a digit is required. The answer is the number of the digits and the power of
ten they count. -/
def decimal? (cs : List Char) : Option (Nat × Int) := do
  let whole := cs.takeWhile Char.isDigit
  let rest := cs.dropWhile Char.isDigit
  let (places, tail) :=
    match rest with
    | '.' :: more => (more.takeWhile Char.isDigit, more.dropWhile Char.isDigit)
    | _ => ([], rest)
  if (whole ++ places).isEmpty then none
  let power ←
    match tail with
    | [] => some 0
    | e :: more => if e == 'e' || e == 'E' then exponent? more else none
  return (digitsNumber (whole ++ places), power - places.length)

/-- A sign, if there is one, and what follows it. -/
def signed (cs : List Char) : Bool × List Char :=
  match cs with
  | '-' :: rest => (true, rest)
  | '+' :: rest => (false, rest)
  | _ => (false, cs)

/-- The number that a text begins with, after a sign; zero if it begins with none. -/
def leadingReal (cs : List Char) : Binary64 :=
  let (negative, unsigned) := signed cs
  let whole := unsigned.takeWhile Char.isDigit
  let rest := unsigned.dropWhile Char.isDigit
  let (places, tail) :=
    match rest with
    | '.' :: more => (more.takeWhile Char.isDigit, more.dropWhile Char.isDigit)
    | _ => ([], rest)
  let power :=
    match tail with
    | e :: more =>
      let (below, after) := signed more
      let digits := after.takeWhile Char.isDigit
      if e == 'e' || e == 'E' then (if below then -(digitsNumber digits : Int) else digitsNumber digits)
      else 0
    | [] => 0
  Binary64.ofDigits negative (digitsNumber (whole ++ places)) (power - places.length)

/-- The text with the digits of every script as ASCII digits. -/
def asciiDigits (cs : List Char) : List Char :=
  cs.map fun c => ((digitValue? c).map Nat.digitChar).getD c

/-- The text in lower case, if it has ASCII letters only. -/
def lowered (cs : List Char) : String := String.ofList (cs.map Char.toLower)

/-- The text without underscores, each of which has to stand between two digits. -/
def withoutUnderscores? (afterDigit : Bool) : List Char → Option (List Char)
  | [] => some []
  | '_' :: c :: rest =>
    if afterDigit && c.isDigit then (withoutUnderscores? true rest).map (c :: ·) else none
  | c :: rest => if c = '_' then none else (withoutUnderscores? c.isDigit rest).map (c :: ·)

/-- Reads a number with a fraction: white space around it and a sign are allowed, and it may be an
infinity or no number. -/
def parseReal (s : String) : Option Binary64 := do
  let cs ← withoutUnderscores? false (asciiDigits (trimNumber s.toList))
  let (negative, unsigned) := signed cs
  let word := lowered unsigned
  if word == "inf" || word == "infinity" then return .infinite negative
  if word == "nan" then return .nan
  let (digits, power) ← decimal? unsigned
  return Binary64.ofDigits negative digits power

/-- Whether a text has the form of a number of any precision: blanks may stand around it and
underscores anywhere, and it may be an infinity or no number, of either kind and with digits. -/
def isNumeral (s : String) : Bool :=
  let cs := asciiDigits ((stripChars s.toList).filter (· != '_'))
  let unsigned := (signed cs).2
  let word := lowered (unsigned.takeWhile fun c => !c.isDigit)
  let rest := unsigned.dropWhile fun c => !c.isDigit
  (decimal? unsigned).isSome ||
    ((word == "inf" || word == "infinity") && rest.isEmpty) ||
    ((word == "nan" || word == "snan") && rest.all Char.isDigit)

end RowGuard.Text
