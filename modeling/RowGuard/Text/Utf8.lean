/-!
# Reading bytes as text

Bytes read as UTF-8. Where they are no text, each longest part that could have begun a character reads
as one replacement character, so every sequence of bytes has a text. `decode_ascii` says that bytes of
ASCII read as themselves.
-/

namespace RowGuard.Text.Utf8

/-- What stands for bytes that are no text. -/
def replacement : Char := Char.ofNat 0xFFFD

/-- What the first byte of a character says: the bits it holds, how many bytes follow, and between
which bounds the next of them lies. -/
structure Lead where
  bits : Nat
  count : Nat
  low : UInt8 := 0x80
  high : UInt8 := 0xBF

/-- Reads the first byte of a character. -/
def lead? (b : UInt8) : Option Lead :=
  if b < 0x80 then some { bits := b.toNat, count := 0 }
  else if b < 0xC2 then none
  else if b < 0xE0 then some { bits := b.toNat - 0xC0, count := 1 }
  else if b < 0xF0 then
    some {
      bits := b.toNat - 0xE0, count := 2
      low := if b = 0xE0 then 0xA0 else 0x80
      high := if b = 0xED then 0x9F else 0xBF }
  else if b < 0xF5 then
    some {
      bits := b.toNat - 0xF0, count := 3
      low := if b = 0xF0 then 0x90 else 0x80
      high := if b = 0xF4 then 0x8F else 0xBF }
  else none

/-- Reads the bytes that follow the first one of a character, and what comes after them. The character
is the replacement if one of them is missing. -/
def follow (bits : Nat) (low high : UInt8) : Nat → List UInt8 → Char × List UInt8
  | 0, rest => (Char.ofNat bits, rest)
  | _ + 1, [] => (replacement, [])
  | count + 1, b :: rest =>
    if low ≤ b ∧ b ≤ high then follow (64 * bits + (b.toNat - 0x80)) 0x80 0xBF count rest
    else (replacement, b :: rest)

theorem length_follow_le (bits : Nat) (low high : UInt8) (count : Nat) (bytes : List UInt8) :
    (follow bits low high count bytes).2.length ≤ bytes.length := by
  fun_induction follow bits low high count bytes with
  | case1 | case2 | case4 => simp
  | case3 _ _ _ _ _ _ _ ih => exact Nat.le_succ_of_le ih

/-- Reads bytes as text. -/
def decode : List UInt8 → List Char
  | [] => []
  | b :: rest =>
    match lead? b with
    | none => replacement :: decode rest
    | some l =>
      (follow l.bits l.low l.high l.count rest).1 ::
        decode (follow l.bits l.low l.high l.count rest).2
termination_by bytes => bytes.length
decreasing_by
  · simp
  · exact Nat.lt_succ_of_le (length_follow_le _ _ _ _ _)

theorem decode_ascii (bytes : List UInt8) (h : ∀ b ∈ bytes, b < 0x80) :
    decode bytes = bytes.map fun b => Char.ofNat b.toNat := by
  induction bytes with
  | nil => simp [decode]
  | cons b rest ih =>
    have hb : b < 0x80 := h b (by simp)
    simp [decode, lead?, hb, follow, ih fun c hc => h c (by simp [hc])]

end RowGuard.Text.Utf8
