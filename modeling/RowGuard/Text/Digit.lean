import RowGuard.Text.Blank

/-!
# Decimal digits and whole numbers in text

A decimal digit is any character of the Unicode 14 digit class; the digits of each script are ten
consecutive code points. `parseInt` reads a whole number as people type one: white space around it, an
optional sign, and single underscores between digits.
-/

namespace RowGuard.Text

/-- The zeros of the scripts; the digits one to nine follow each of them. -/
def digitZeros : List Nat := [
  0x30, 0x660, 0x6F0, 0x7C0, 0x966, 0x9E6, 0xA66, 0xAE6, 0xB66, 0xBE6, 0xC66, 0xCE6, 0xD66,
  0xDE6, 0xE50, 0xED0, 0xF20, 0x1040, 0x1090, 0x17E0, 0x1810, 0x1946, 0x19D0, 0x1A80, 0x1A90,
  0x1B50, 0x1BB0, 0x1C40, 0x1C50, 0xA620, 0xA8D0, 0xA900, 0xA9D0, 0xA9F0, 0xAA50, 0xABF0, 0xFF10,
  0x104A0, 0x10D30, 0x11066, 0x110F0, 0x11136, 0x111D0, 0x112F0, 0x11450, 0x114D0, 0x11650,
  0x116C0, 0x11730, 0x118E0, 0x11950, 0x11C50, 0x11D50, 0x11DA0, 0x16A60, 0x16AC0, 0x16B50,
  0x1D7CE, 0x1D7D8, 0x1D7E2, 0x1D7EC, 0x1D7F6, 0x1E140, 0x1E2F0, 0x1E950, 0x1FBF0]

/-- The value of a decimal digit of any script. -/
def digitValue? (c : Char) : Option Nat :=
  (digitZeros.find? fun z => z ≤ c.toNat && c.toNat < z + 10).map (c.toNat - ·)

/-- The characters that may stand around a number: blanks, but no information separator. -/
def isNumberBlank (c : Char) : Bool :=
  isBlank c && !(0x1C ≤ c.toNat && c.toNat ≤ 0x1F)

/-- A text without the characters that may stand around a number. -/
def trimNumber (cs : List Char) : List Char :=
  ((cs.dropWhile isNumberBlank).reverse.dropWhile isNumberBlank).reverse

/-- The greatest number of digits that a whole number is read from. -/
def maxDigits : Nat := 4300

/-- Reads the digits after the first one; an underscore must stand between two digits. -/
def readDigits (value : Nat) : List Char → Option Nat
  | [] => some value
  | '_' :: c :: rest => do readDigits (10 * value + (← digitValue? c)) rest
  | c :: rest => do readDigits (10 * value + (← digitValue? c)) rest

/-- Reads a natural number: a digit, then digits with single underscores between them. -/
def parseNatChars (cs : List Char) : Option Nat :=
  if (cs.filter (· != '_')).length > maxDigits then none
  else
    match cs with
    | [] => none
    | c :: rest => do readDigits (← digitValue? c) rest

/-- Reads a whole number: white space around it and a sign are allowed. -/
def parseInt (s : String) : Option Int :=
  match trimNumber s.toList with
  | '-' :: cs => (parseNatChars cs).map fun n => -(n : Int)
  | '+' :: cs => (parseNatChars cs).map fun n => (n : Int)
  | cs => (parseNatChars cs).map fun n => (n : Int)

end RowGuard.Text
