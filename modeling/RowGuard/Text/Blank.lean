/-!
# Blanks

The characters that count as blank at the ends of a text: the Unicode 14 white space together with
the four information separators. `strip` removes them from both ends; `stripChars_eq_nil_iff`
says that only a text of blanks vanishes.
-/

namespace RowGuard.Text

/-- The code points of blank characters. -/
def blankCodes : List Nat := [
  0x09, 0x0A, 0x0B, 0x0C, 0x0D, 0x1C, 0x1D, 0x1E, 0x1F, 0x20, 0x85, 0xA0, 0x1680, 0x2000, 0x2001,
  0x2002, 0x2003, 0x2004, 0x2005, 0x2006, 0x2007, 0x2008, 0x2009, 0x200A, 0x2028, 0x2029, 0x202F,
  0x205F, 0x3000]

/-- Whether a character is blank. -/
def isBlank (c : Char) : Bool :=
  blankCodes.contains c.toNat

/-- The text without the blanks it begins with. -/
def stripStart (cs : List Char) : List Char :=
  cs.dropWhile isBlank

/-- The text without the blanks it ends with. -/
def stripEnd (cs : List Char) : List Char :=
  (cs.reverse.dropWhile isBlank).reverse

/-- The text without the blanks at either end. -/
def stripChars (cs : List Char) : List Char :=
  stripEnd (stripStart cs)

/-- The text without the blanks at either end. -/
def strip (s : String) : String :=
  String.ofList (stripChars s.toList)

/-- What is left after dropping characters is no longer than the text. -/
theorem length_dropWhile_le (p : Char → Bool) (cs : List Char) :
    (cs.dropWhile p).length ≤ cs.length :=
  (List.dropWhile_sublist p).length_le

theorem stripStart_eq_nil_iff (cs : List Char) : stripStart cs = [] ↔ cs.all isBlank = true := by
  unfold stripStart
  induction cs with
  | nil => simp
  | cons c rest ih => cases hc : isBlank c <;> simp [hc, ih]

theorem stripEnd_eq_nil_iff (cs : List Char) : stripEnd cs = [] ↔ cs.all isBlank = true := by
  rw [stripEnd, List.reverse_eq_nil_iff, ← List.all_reverse (l := cs)]
  exact stripStart_eq_nil_iff cs.reverse

/-- Nothing is left of a text exactly if it consists of blanks. -/
theorem stripChars_eq_nil_iff (cs : List Char) : stripChars cs = [] ↔ cs.all isBlank = true := by
  rw [stripChars, stripEnd_eq_nil_iff]
  induction cs with
  | nil => rfl
  | cons c rest ih =>
    cases hc : isBlank c with
    | true =>
      rw [stripStart, List.dropWhile_cons_of_pos hc]
      simpa [hc, stripStart] using ih
    | false => rw [stripStart, List.dropWhile_cons_of_neg (by simp [hc])]

end RowGuard.Text
