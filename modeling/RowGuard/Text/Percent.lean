import RowGuard.Text.Utf8

/-!
# Percent encoding

Bytes of a text written as `%` and two hexadecimal digits, as in the parts of a URL. `encode` keeps
the unreserved characters and those the caller names; `decode` reads the text back and leaves a
percent sign that no two digits follow as it is.
-/

namespace RowGuard.Text.Percent

/-- The upper-case hexadecimal digit of a number below sixteen. -/
def upperHex (n : Nat) : Char :=
  if n < 10 then Char.ofNat (48 + n) else Char.ofNat (55 + n)

/-- One byte as a percent sign and two digits. -/
def encodeByte (b : UInt8) : List Char :=
  ['%', upperHex (b.toNat / 16), upperHex (b.toNat % 16)]

/-- Letters, digits and the four marks that no part of a URL gives a meaning. -/
def isUnreserved (c : Char) : Bool :=
  c.isAlphanum || c == '_' || c == '.' || c == '-' || c == '~'

/-- A character as it is if it may stay, else its bytes. -/
def encodeChar (keep : Char → Bool) (c : Char) : List Char :=
  if isUnreserved c || keep c then [c]
  else (String.singleton c).toUTF8.toList.flatMap encodeByte

/-- Encodes a text, keeping the unreserved characters and those `keep` accepts. -/
def encode (keep : Char → Bool) (s : String) : String :=
  String.ofList (s.toList.flatMap (encodeChar keep))

/-- Encodes a value of a query: a blank becomes a plus sign. -/
def encodeQuery (s : String) : String :=
  String.ofList (s.toList.flatMap fun c =>
    if c == ' ' then ['+'] else encodeChar (fun _ => false) c)

/-- The value of a hexadecimal digit. -/
def hexValue? (c : Char) : Option Nat :=
  if c.isDigit then some (c.toNat - 48)
  else if 'a' ≤ c ∧ c ≤ 'f' then some (c.toNat - 87)
  else if 'A' ≤ c ∧ c ≤ 'F' then some (c.toNat - 55)
  else none

/-- The bytes of an encoded text. -/
def decodeBytes : List Char → List UInt8
  | [] => []
  | '%' :: a :: b :: rest =>
    match hexValue? a, hexValue? b with
    | some x, some y => UInt8.ofNat (16 * x + y) :: decodeBytes rest
    | _, _ => 37 :: decodeBytes (a :: b :: rest)
  | c :: rest => (String.singleton c).toUTF8.toList ++ decodeBytes rest
termination_by cs => cs.length

/-- Reads an encoded text back. -/
def decode (cs : List Char) : List Char := Utf8.decode (decodeBytes cs)

end RowGuard.Text.Percent
