import Mathlib
import RowGuard.Text.Numeral

/-!
# The characters of numbers

A numeral is read from a text in which blanks and underscores do not count and the digits of every script do. It may
consist of more than ASCII digits, but it has no quote, no parenthesis, no comma and no semicolon
(`isNumeralChar_of_isNumeral`).
-/

namespace RowGuard.Text

/-- The characters that a number is written with in any script, letters included. -/
def isNumeralChar (c : Char) : Bool :=
  c.isAlphanum || isBlank c || (digitValue? c).isSome || ['_', '.', '+', '-'].contains c

variable {cs : List Char} {c : Char}

theorem isNumeralChar_of_isDigit (h : c.isDigit = true) : isNumeralChar c = true := by
  simp [isNumeralChar, Char.isAlphanum, h]

theorem isNumeralChar_of_signed (h : ∀ d ∈ (signed cs).2, isNumeralChar d = true) (hc : c ∈ cs) :
    isNumeralChar c = true := by
  unfold signed at h
  split at h
  next rest =>
    rcases List.mem_cons.mp hc with rfl | hc
    · rfl
    · exact h c hc
  next rest =>
    rcases List.mem_cons.mp hc with rfl | hc
    · rfl
    · exact h c hc
  next => exact h c hc

theorem isNumeralChar_of_exponent? (h : (exponent? cs).isSome = true) (hc : c ∈ cs) : isNumeralChar c = true := by
  unfold exponent? at h
  split at h
  next negative digits hsigned =>
    have hdigits : (signed cs).2 = digits := congrArg Prod.snd hsigned
    refine isNumeralChar_of_signed ?_ hc
    intro d hd
    rw [hdigits] at hd
    split at h
    · simp at h
    · simp_all [isNumeralChar_of_isDigit]

theorem isNumeralChar_of_mark {e : Char} {more : List Char} (he : (e == 'e' || e == 'E') = true)
    (h : (exponent? more).isSome = true) (hc : c ∈ e :: more) : isNumeralChar c = true := by
  rcases List.mem_cons.mp hc with rfl | hc
  · rcases (Bool.or_eq_true _ _).mp he with he | he <;> rw [beq_iff_eq.mp he] <;> rfl
  · exact isNumeralChar_of_exponent? h hc

/-- A number has digits, a point and digits after it, and an exponent. -/
theorem isNumeralChar_of_decimal? (h : (decimal? cs).isSome = true) (hc : c ∈ cs) : isNumeralChar c = true := by
  have hdigits : ∀ {ds : List Char}, c ∈ ds → isNumeralChar c = true ∨ c ∈ ds.dropWhile Char.isDigit := by
    intro ds hc
    rw [← List.takeWhile_append_dropWhile (p := Char.isDigit) (l := ds), List.mem_append] at hc
    exact hc.imp_left fun hc => isNumeralChar_of_isDigit (List.mem_takeWhile_imp hc)
  obtain hc | hrest := hdigits hc
  · exact hc
  unfold decimal? at h
  dsimp only at h
  split at h
  case' h_1 more heq =>
    have htail : isNumeralChar c = true ∨ c ∈ more.dropWhile Char.isDigit := by
      rw [heq] at hrest
      rcases List.mem_cons.mp hrest with rfl | hmore
      · exact .inl rfl
      · exact hdigits hmore
  case' h_2 =>
    have htail : isNumeralChar c = true ∨ c ∈ cs.dropWhile Char.isDigit := .inr hrest
  -- with or without a point, an exponent is what follows
  all_goals
    obtain hc | htail := htail
    · exact hc
    split at h
    · simp at h
    dsimp only at h
    split at h
    next hnil => simp [hnil] at htail
    next e rest htext =>
      split at h
      next he =>
        rw [htext] at htail
        refine isNumeralChar_of_mark he ?_ htail
        cases hexponent : exponent? rest <;> simp_all
      next => simp at h

/-- The letters of a word in either case. -/
theorem isNumeralChar_of_lowered {word : String} (h : lowered cs = word)
    (hword : word.toList.all Char.isAlphanum = true) (hc : c ∈ cs) : isNumeralChar c = true := by
  have hlower : c.toLower.isAlphanum = true := by
    refine List.all_eq_true.mp hword _ ?_
    rw [← h, lowered, String.toList_ofList]
    exact List.mem_map_of_mem hc
  have halnum : c.isAlphanum = true := by
    cases hupper : c.isUpper with
    | true => simp [Char.isAlphanum, Char.isAlpha, hupper]
    | false =>
      have hsame : c.toLower = c := by
        unfold Char.toLower
        rw [dif_neg (by simpa [Char.isUpper] using hupper)]
      exact hsame ▸ hlower
  simp [isNumeralChar, halnum]

theorem isBlank_or_mem_stripChars (hc : c ∈ cs) : isBlank c = true ∨ c ∈ stripChars cs := by
  have hdrop : ∀ {ds : List Char}, c ∈ ds → isBlank c = true ∨ c ∈ ds.dropWhile isBlank := by
    intro ds hc
    rw [← List.takeWhile_append_dropWhile (p := isBlank) (l := ds), List.mem_append] at hc
    exact hc.imp_left List.mem_takeWhile_imp
  obtain hc | hc := hdrop hc
  · exact .inl hc
  · obtain hc | hc := hdrop (List.mem_reverse.mpr hc)
    · exact .inl hc
    · exact .inr (List.mem_reverse.mpr hc)

/-- Every character of a numeral is one that numbers are written with. -/
theorem isNumeralChar_of_isNumeral {s : String} (h : isNumeral s = true) (hc : c ∈ s.toList) :
    isNumeralChar c = true := by
  obtain hblank | hstripped := isBlank_or_mem_stripChars hc
  · simp [isNumeralChar, hblank]
  by_cases hunderscore : c = '_'
  · exact hunderscore ▸ rfl
  cases hdigit : digitValue? c with
  | some n => simp [isNumeralChar, hdigit]
  | none =>
    have hmem : c ∈ asciiDigits ((stripChars s.toList).filter (· != '_')) :=
      List.mem_map.mpr ⟨c, List.mem_filter.mpr ⟨hstripped, by simpa using hunderscore⟩, by simp [hdigit]⟩
    refine isNumeralChar_of_signed ?_ hmem
    intro d hd
    have hparts := hd
    rw [← List.takeWhile_append_dropWhile (p := fun c : Char => !c.isDigit) (l := (signed _).2),
      List.mem_append] at hparts
    simp only [isNumeral, Bool.or_eq_true, Bool.and_eq_true, beq_iff_eq, List.isEmpty_iff, List.all_eq_true] at h
    obtain (hdecimal | ⟨hword, hrest⟩) | ⟨hword, hrest⟩ := h
    · exact isNumeralChar_of_decimal? hdecimal hd
    · rw [hrest] at hparts
      have hletters := hparts.resolve_right (by simp)
      rcases hword with hword | hword <;> exact isNumeralChar_of_lowered hword (by decide) hletters
    · rcases hparts with hletters | hdigits
      · rcases hword with hword | hword <;> exact isNumeralChar_of_lowered hword (by decide) hletters
      · exact isNumeralChar_of_isDigit (hrest d hdigits)

end RowGuard.Text
