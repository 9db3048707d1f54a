/-!
# Numbers with 53 binary digits

A number with a fraction is kept as the exact dyadic number it denotes: the nearest multiple of a
power of two with at most 53 binary digits and an exponent of at least -1074. Beside these stand a
zero with a minus sign, the two infinities, which take the place of what is too large, and the value
that is no number. This module reads a decimal to the nearest such number (`ofDigits`, ties to even),
writes the fewest digits that read back (`shortest`) and rounds to fixed places (`fixed`).
-/

namespace RowGuard

/-- A number with at most 53 binary digits, an infinity, or no number at all. -/
inductive Binary64 where
  | finite (x : Dyadic)
  | negativeZero
  | infinite (negative : Bool)
  | nan
deriving DecidableEq, Inhabited

namespace Binary64

/-- Zero with a sign. -/
def zero (negative : Bool) : Binary64 :=
  if negative then negativeZero else finite 0

/-- The dyadic number denoted, if the value is finite. -/
def dyadic? : Binary64 → Option Dyadic
  | finite x => some x
  | negativeZero => some 0
  | infinite _ | nan => none

/-- Whether the value carries a minus sign. -/
def isNegative : Binary64 → Bool
  | finite x => decide (x < 0)
  | negativeZero => true
  | infinite negative => negative
  | nan => false

/-- Whether the value is a zero of either sign. -/
def isZero (x : Binary64) : Bool := x.dyadic? == some 0

/-! ## Rounding -/

/-- The natural number nearest to `num / den`; a half goes to the even neighbour. -/
def roundRatio (num den : Nat) : Nat :=
  let q := num / den
  let r := num % den
  if 2 * r < den || (2 * r == den && q % 2 == 0) then q else q + 1

/-- The ratio `num / den` divided by `2 ^ e`, as a ratio again. -/
def scaleRatio (num den : Nat) (e : Int) : Nat × Nat :=
  if 0 ≤ e then (num, den * Nat.pow 2 e.toNat) else (num * Nat.pow 2 (-e).toNat, den)

/-- The exponent at which `num / den` has 53 binary digits before the point, at least -1074. -/
def exponentOf (num den : Nat) : Int :=
  -- the quotient of the powers of two below the terms is right up to one binary digit
  let guess : Int := num.log2 - den.log2 - 53
  let (n, d) := scaleRatio num den guess
  let e := if n / d ≥ Nat.pow 2 53 then guess + 1 else guess
  if e < -1074 then -1074 else e

/-- The number nearest to the ratio `num / den` with a sign; one too large becomes infinite. -/
def ofRatio (negative : Bool) (num den : Nat) : Binary64 :=
  let e := exponentOf num den
  let (n, d) := scaleRatio num den e
  let units := roundRatio n d
  if units = 0 then zero negative
  else if (units.log2 : Int) + e ≥ 1024 then infinite negative
  else
    finite (Dyadic.ofIntWithPrec (if negative then -(units : Int) else units) (-e))

/-- The number of decimal digits of a natural number. -/
def decimalLength (n : Nat) : Nat :=
  (Nat.toDigits 10 n).length

/-- The number nearest to `digits * 10 ^ exponent` with a sign. -/
def ofDigits (negative : Bool) (digits : Nat) (exponent : Int) : Binary64 :=
  let point : Int := decimalLength digits + exponent
  if digits = 0 || point < -330 then zero negative
  else if point > 330 then infinite negative
  else if 0 ≤ exponent then ofRatio negative (digits * Nat.pow 10 exponent.toNat) 1
  else ofRatio negative digits (Nat.pow 10 (-exponent).toNat)

/-- The number nearest to `mantissa * 10 ^ exponent`. -/
def ofDecimal (mantissa exponent : Int) : Binary64 :=
  ofDigits (decide (mantissa < 0)) mantissa.natAbs exponent

/-- The number nearest to a whole number. -/
def ofInt (n : Int) : Binary64 :=
  if n = 0 then finite 0 else ofRatio (decide (n < 0)) n.natAbs 1

/-- The number nearest to a whole number, unless that is too large. -/
def ofInt? (n : Int) : Option Binary64 :=
  if ofInt n matches finite _ then some (ofInt n) else none

/-- The number nearest to a dyadic number. -/
def round (x : Dyadic) : Binary64 :=
  let r := x.toRat
  if r.num = 0 then finite 0 else ofRatio (decide (r.num < 0)) r.num.natAbs r.den

/-- Twice the number. -/
def double : Binary64 → Binary64
  | finite x => round (x + x)
  | x => x

/-- The number with its sign changed. -/
def neg : Binary64 → Binary64
  | finite x => if x = 0 then negativeZero else finite (-x)
  | negativeZero => finite 0
  | infinite negative => infinite (!negative)
  | nan => nan

/-- The sum of two numbers. -/
def add (x y : Binary64) : Binary64 :=
  match x.dyadic?, y.dyadic? with
  | some a, some b =>
    if x.isNegative && y.isNegative && a + b = 0 then negativeZero else round (a + b)
  | none, some _ => x
  | some _, none => y
  | none, none => if x = y then x else nan

/-- A number multiplied by a natural number other than zero. -/
def scale (x : Binary64) (n : Nat) : Binary64 :=
  match x, (ofInt n).dyadic? with
  | finite d, some m => round (d * m)
  | other, _ => other

/-- The whole number that is left when the places after the point are dropped. -/
def truncate? (x : Binary64) : Option Int :=
  x.dyadic?.map fun d => d.toRat.num.tdiv d.toRat.den

/-! ## Order -/

/-- Where a value stands: below, among or above the finite numbers. -/
def side? : Binary64 → Option Int
  | finite _ | negativeZero => some 0
  | infinite negative => some (if negative then -1 else 1)
  | nan => none

/-! ## Text -/

/-- The magnitude of a number as a ratio. -/
def toRatio (x : Dyadic) : Nat × Nat :=
  let r := x.toRat
  (r.num.natAbs, r.den)

/-- The position of the decimal point before the first digit: the least `k` with `x < 10 ^ k`. -/
def pointOf (num den : Nat) : Int :=
  (decimalLength (num * Nat.pow 10 400 / den) : Int) - 400

/-- The two neighbours of `num / den` among the multiples of `10 ^ grid`, as counts of that unit. -/
def neighbours (num den : Nat) (grid : Int) : Nat × Nat :=
  let below :=
    if 0 ≤ grid then num / (den * Nat.pow 10 grid.toNat)
    else num * Nat.pow 10 (-grid).toNat / den
  (below, below + 1)

/-- Tries one more digit until a neighbour on the grid reads back as the number itself. -/
def shortestFrom (x : Dyadic) (num den : Nat) (point : Int) (digits : Nat) : Nat → Nat × Int
  | 0 => ((neighbours num den (point - digits)).1, point - digits)
  | tries + 1 =>
    let grid := point - digits
    let (below, above) := neighbours num den grid
    let lower := ofDigits false below grid == finite x
    let upper := ofDigits false above grid == finite x
    if lower && upper then
      -- both read back: the nearer one is written, and of two equally near ones the even one
      let twice := scale10 (2 * num) den grid
      let half := twice.2 * (below + above)
      (if twice.1 < half || (twice.1 == half && below % 2 == 0) then below else above, grid)
    else if lower then (below, grid)
    else if upper then (above, grid)
    else shortestFrom x num den point (digits + 1) tries
where
  /-- The ratio divided by `10 ^ grid`. -/
  scale10 (n d : Nat) (grid : Int) : Nat × Nat :=
    if 0 ≤ grid then (n, d * Nat.pow 10 grid.toNat) else (n * Nat.pow 10 (-grid).toNat, d)

/-- The shortest decimal that reads back as the magnitude of `x`: its digits, with no zero at the
end, and the position of the point before the first of them. -/
def shortest (x : Dyadic) : List Char × Int :=
  let magnitude := if x < 0 then -x else x
  let (num, den) := toRatio x
  if num = 0 then (['0'], 1)
  else
    let (count, grid) := shortestFrom magnitude num den (pointOf num den) 1 17
    let digits := Nat.toDigits 10 count
    let significant := (digits.reverse.dropWhile (· == '0')).reverse
    (significant, grid + digits.length)

/-- The magnitude of `x` rounded to at most `count` digits, a half upwards: the digits, with no zero at
the end, and the position of the point before the first of them. -/
def significant (count : Nat) (x : Dyadic) : List Char × Int :=
  let (num, den) := toRatio x
  if num = 0 then (['0'], 1)
  else
    let point := pointOf num den
    let places := (count : Int) - point
    let (n, d) :=
      if 0 ≤ places then (num * Nat.pow 10 places.toNat, den)
      else (num, den * Nat.pow 10 (-places).toNat)
    let digits := Nat.toDigits 10 ((2 * n + d) / (2 * d))
    ((digits.reverse.dropWhile (· == '0')).reverse, digits.length - places)

/-- Digits with the point after the first `point` of them, with at least one digit on each side. -/
def positional (digits : List Char) (point : Int) : String :=
  if point ≤ 0 then "0." ++ String.ofList (List.replicate (-point).toNat '0' ++ digits)
  else
    let whole := digits.take point.toNat
    let rest := digits.drop point.toNat
    String.ofList (whole ++ List.replicate (point.toNat - whole.length) '0') ++ "." ++
      (if rest.isEmpty then "0" else String.ofList rest)

/-- An exponent with its sign and at least two digits. -/
def exponentText (power : Int) : String :=
  let written := toString power.natAbs
  (if power < 0 then "e-" else "e+") ++ (if written.length < 2 then "0" else "") ++ written

/-- The text of a value that is no finite number. -/
def wordFor (infinity notANumber : String) (x : Binary64) : String :=
  match x with
  | infinite negative => (if negative then "-" else "") ++ infinity
  | _ => notANumber

/-- A number in plain text: positional from `10 ^ -4` up to `10 ^ 16`, with at least one digit on
each side of the point, and otherwise with an exponent of at least two digits. -/
def toText (x : Binary64) : String :=
  match x.dyadic? with
  | none => wordFor "inf" "nan" x
  | some d =>
    let (digits, point) := shortest d
    (if x.isNegative then "-" else "") ++
      if -4 < point ∧ point ≤ 16 then positional digits point
      else
        String.ofList (digits.take 1) ++
          (if digits.length ≤ 1 then "" else "." ++ String.ofList (digits.drop 1)) ++
          exponentText (point - 1)

/-- A number rounded to the given count of places after the point, a half to the even neighbour. -/
def fixed (places : Nat) (x : Binary64) : String :=
  match x.dyadic? with
  | none => wordFor "inf" "nan" x
  | some d =>
    let (num, den) := toRatio d
    let units := roundRatio (num * Nat.pow 10 places) den
    let digits := Nat.toDigits 10 units
    let padded := List.replicate (places + 1 - digits.length) '0' ++ digits
    let whole := padded.take (padded.length - places)
    let rest := padded.drop (padded.length - places)
    (if x.isNegative then "-" else "") ++ String.ofList whole ++
      (if places = 0 then "" else "." ++ String.ofList rest)

end Binary64

end RowGuard
