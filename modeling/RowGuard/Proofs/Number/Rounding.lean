import Mathlib
import RowGuard.Scalar

/-!
# Rounding to 53 binary digits

A ratio is rounded at the exponent that leaves it 53 binary digits before the point (`exponentOf_spec`). What has
no more than 53 digits to begin with is therefore kept as it is (`round_eq_self`), as long as it is below
`Binary64.limit`, where the infinity begins. Twice a number with 53 digits is again one: a number that is kept
exactly stays so when it is doubled (`Number.IsExactly.twice`).
-/

namespace RowGuard

namespace Binary64

/-- The least number that is rounded to the infinity. -/
def limit : ℚ := 2 ^ 1024 - 2 ^ 970

/-- The powers of two before the infinity are below it. -/
theorem two_pow_lt_limit {i : ℕ} (h : i ≤ 1023) : (2 : ℚ) ^ i < limit := by
  have hle : (2 : ℚ) ^ i ≤ 2 ^ 1023 := pow_le_pow_right₀ one_le_two h
  have hless : (2 : ℚ) ^ 970 < 2 ^ 1023 := pow_lt_pow_right₀ one_lt_two (by omega)
  rw [limit, show (2 : ℚ) ^ 1024 = 2 ^ 1023 * 2 from pow_succ 2 1023, mul_two]
  exact lt_sub_iff_add_lt.mpr (add_lt_add_of_le_of_lt hle hless)

/-- The number has at most 53 binary digits, or is the power of two that follows, at an exponent that there is. -/
def Fits (q : ℚ) : Prop := ∃ (units : ℕ) (e : ℤ), units ≤ 2 ^ 53 ∧ -1074 ≤ e ∧ q = units * 2 ^ e

theorem Fits.double {q : ℚ} (h : Fits q) : Fits (2 * q) := by
  obtain ⟨units, e, hunits, he, rfl⟩ := h
  refine ⟨units, e + 1, hunits, by omega, ?_⟩
  rw [zpow_add_one₀ two_ne_zero]
  ring

/-! ## The parts of rounding -/

theorem scaleRatio_div (num den : ℕ) (e : ℤ) :
    ((scaleRatio num den e).1 : ℚ) / (scaleRatio num den e).2 = num / den / 2 ^ e := by
  unfold scaleRatio
  split
  case isTrue h =>
    obtain ⟨k, rfl⟩ := Int.eq_ofNat_of_zero_le h
    simp [div_div]
  case isFalse h =>
    obtain ⟨k, hk⟩ := Int.eq_ofNat_of_zero_le (show 0 ≤ -e by omega)
    obtain rfl : e = -(k : ℤ) := by omega
    simp [div_mul_eq_mul_div]

theorem scaleRatio_pos {den : ℕ} (num : ℕ) (e : ℤ) (h : 0 < den) : 0 < (scaleRatio num den e).2 := by
  unfold scaleRatio
  split
  case isTrue => exact Nat.mul_pos h (Nat.pow_pos two_pos)
  case isFalse => exact h

/-- A ratio by its quotient and remainder. -/
theorem ratio_eq {num den : ℕ} (h : 0 < den) :
    (num : ℚ) / den = (num / den : ℕ) + ((num % den : ℕ) : ℚ) / den := by
  have hne : (den : ℚ) ≠ 0 := by positivity
  have hsplit : (num : ℚ) = den * (num / den : ℕ) + (num % den : ℕ) := by
    exact_mod_cast (Nat.div_add_mod num den).symm
  field_simp
  linarith

/-- Rounding adds a half at most. -/
theorem roundRatio_le {num den : ℕ} (h : 0 < den) : (roundRatio num den : ℚ) ≤ num / den + 1 / 2 := by
  have hpos : (0 : ℚ) < den := by exact_mod_cast h
  rw [ratio_eq h]
  simp only [roundRatio]
  split
  case isTrue =>
    have hrest : 0 ≤ ((num % den : ℕ) : ℚ) / den := by positivity
    linarith
  case isFalse hup =>
    have hhalf : den ≤ 2 * (num % den) := by
      by_contra hless
      simp [show 2 * (num % den) < den by omega] at hup
    have hhalf' : (1 : ℚ) / 2 ≤ ((num % den : ℕ) : ℚ) / den := by
      rw [div_le_div_iff₀ two_pos hpos]
      have hcast : (den : ℚ) ≤ 2 * (num % den : ℕ) := by exact_mod_cast hhalf
      linarith
    push_cast
    linarith

/-- A ratio that is a whole number is not moved. -/
theorem roundRatio_eq {num den units : ℕ} (h : 0 < den) (hratio : (num : ℚ) / den = units) :
    roundRatio num den = units := by
  have hne : (den : ℚ) ≠ 0 := by positivity
  obtain rfl : num = units * den := by
    rw [div_eq_iff hne] at hratio
    exact_mod_cast hratio
  simp [roundRatio, Nat.mul_div_cancel _ h, h]

/-- The quotient of the powers of two below the terms of a ratio is right up to one binary digit. -/
theorem ratio_log2_bounds {num den : ℕ} (hnum : 0 < num) (hden : 0 < den) :
    (2 : ℚ) ^ ((num.log2 : ℤ) - den.log2 - 1) < num / den ∧
      (num : ℚ) / den < 2 ^ ((num.log2 : ℤ) - den.log2 + 1) := by
  have hnum₁ : (2 : ℚ) ^ (num.log2 : ℤ) ≤ num := by exact_mod_cast Nat.log2_self_le hnum.ne'
  have hnum₂ : (num : ℚ) < 2 ^ ((num.log2 : ℤ) + 1) := by exact_mod_cast Nat.lt_log2_self
  have hden₁ : (2 : ℚ) ^ (den.log2 : ℤ) ≤ den := by exact_mod_cast Nat.log2_self_le hden.ne'
  have hden₂ : (den : ℚ) < 2 ^ ((den.log2 : ℤ) + 1) := by exact_mod_cast Nat.lt_log2_self
  have hpos : (0 : ℚ) < den := by exact_mod_cast hden
  constructor
  · rw [lt_div_iff₀ hpos]
    calc (2 : ℚ) ^ ((num.log2 : ℤ) - den.log2 - 1) * den
        < 2 ^ ((num.log2 : ℤ) - den.log2 - 1) * 2 ^ ((den.log2 : ℤ) + 1) := by gcongr
      _ = 2 ^ (num.log2 : ℤ) := by rw [← zpow_add₀ two_ne_zero]; congr 1; ring
      _ ≤ num := hnum₁
  · rw [div_lt_iff₀ hpos]
    calc (num : ℚ) < 2 ^ ((num.log2 : ℤ) + 1) := hnum₂
      _ = 2 ^ ((num.log2 : ℤ) - den.log2 + 1) * 2 ^ (den.log2 : ℤ) := by
          rw [← zpow_add₀ two_ne_zero]; congr 1; ring
      _ ≤ 2 ^ ((num.log2 : ℤ) - den.log2 + 1) * den := by gcongr

/-- The exponent leaves 53 binary digits before the point, unless it is the least one. -/
theorem exponentOf_spec {num den : ℕ} (hnum : 0 < num) (hden : 0 < den) :
    -1074 ≤ exponentOf num den ∧ (num : ℚ) / den < 2 ^ (exponentOf num den + 53) ∧
      (exponentOf num den = -1074 ∨ (2 : ℚ) ^ (exponentOf num den + 52) ≤ num / den) := by
  obtain ⟨hlow, hhigh⟩ := ratio_log2_bounds hnum hden
  -- the guess is right, or one too small
  obtain ⟨e, he, hlow', hhigh'⟩ : ∃ e : ℤ, exponentOf num den = max e (-1074) ∧
      (2 : ℚ) ^ (e + 52) ≤ num / den ∧ (num : ℚ) / den < 2 ^ (e + 53) := by
    set guess : ℤ := (num.log2 : ℤ) - den.log2 - 53 with hguess
    rcases hscaled : scaleRatio num den guess with ⟨n, d⟩
    have hd : 0 < d := by simpa [hscaled] using scaleRatio_pos num guess hden
    have hratio : (n : ℚ) / d = num / den / 2 ^ guess := by
      simpa [hscaled] using scaleRatio_div num den guess
    have hpow : (0 : ℚ) < 2 ^ guess := by positivity
    have hmax : ∀ e : ℤ, (if e < -1074 then -1074 else e) = max e (-1074) := by omega
    have hexponent : exponentOf num den = max (if 2 ^ 53 ≤ n / d then guess + 1 else guess) (-1074) := by
      rw [← hmax]
      simp only [exponentOf, ← hguess, hscaled]
      rfl
    have hfloor : 2 ^ 53 ≤ n / d ↔ (2 : ℚ) ^ (guess + 53) ≤ num / den := by
      have hcast : 2 ^ 53 ≤ n / d ↔ (2 : ℚ) ^ 53 ≤ n / d := by
        rw [Nat.le_div_iff_mul_le hd, le_div_iff₀ (by exact_mod_cast hd)]
        exact_mod_cast Iff.rfl
      rw [hcast, hratio, le_div_iff₀ hpow, add_comm, zpow_add₀ two_ne_zero]
      rfl
    by_cases hlarge : 2 ^ 53 ≤ n / d
    · refine ⟨guess + 1, by rw [hexponent, if_pos hlarge], ?_, ?_⟩
      · exact (hfloor.mp hlarge).trans' (zpow_le_zpow_right₀ one_le_two (by omega))
      · exact hhigh.trans_le (zpow_le_zpow_right₀ one_le_two (by omega))
    · refine ⟨guess, by rw [hexponent, if_neg hlarge], ?_, ?_⟩
      · exact hlow.le.trans' (zpow_le_zpow_right₀ one_le_two (by omega))
      · exact not_le.mp (mt hfloor.mpr hlarge)
  rw [he]
  refine ⟨le_max_right _ _, hhigh'.trans_le ?_, ?_⟩
  · exact zpow_le_zpow_right₀ one_le_two (by omega)
  · rcases le_total e (-1074) with hleast | hleast
    · exact .inl (max_eq_right hleast)
    · rw [max_eq_left hleast]
      exact .inr hlow'

/-! ## What is rounded to a finite number -/

/-- What is rounded up to a power of two that there is no number for has been at the limit. -/
theorem limit_le {num den units : ℕ} (hnum : 0 < num) (hden : 0 < den) (hunits : units ≤ 2 ^ 53)
    (hpositive : units ≠ 0) (hround : (units : ℚ) ≤ num / den / 2 ^ exponentOf num den + 1 / 2)
    (hlarge : 1024 ≤ (units.log2 : ℤ) + exponentOf num den) : limit ≤ num / den := by
  obtain ⟨-, -, hlow⟩ := exponentOf_spec hnum hden
  set e := exponentOf num den with he
  have hlog : units.log2 ≤ 53 := by
    have hpow : 2 ^ units.log2 ≤ 2 ^ 53 := (Nat.log2_self_le hpositive).trans hunits
    exact (Nat.pow_le_pow_iff_right Nat.one_lt_two).mp hpow
  have hlow' : (2 : ℚ) ^ (e + 52) ≤ num / den := hlow.resolve_left (by omega)
  rcases (show e = 971 ∨ 972 ≤ e by omega) with hleast | hmore
  · -- the units are a power of two, to which less than a half has been added
    have hunits' : (2 : ℚ) ^ 53 ≤ units := by
      have hpow : 2 ^ 53 ≤ units :=
        (Nat.pow_le_pow_right two_pos (show 53 ≤ units.log2 by omega)).trans (Nat.log2_self_le hpositive)
      exact_mod_cast hpow
    have hratio : (2 : ℚ) ^ 53 - 1 / 2 ≤ num / den / 2 ^ e := by linarith
    rw [hleast, le_div_iff₀ (by positivity)] at hratio
    refine hratio.trans' (le_of_eq ?_)
    have hnext : (2 : ℚ) ^ (971 : ℤ) = 2 ^ 970 * 2 := by
      rw [show (971 : ℤ) = 970 + 1 from rfl, zpow_add_one₀ two_ne_zero, zpow_ofNat]
    rw [limit, show (2 : ℚ) ^ 1024 = 2 ^ 54 * 2 ^ 970 from pow_add 2 54 970, hnext]
    generalize (2 : ℚ) ^ 970 = x
    ring
  · have hpow : (2 : ℚ) ^ (1024 : ℕ) ≤ 2 ^ (e + 52) := by
      rw [← zpow_natCast]
      exact zpow_le_zpow_right₀ one_le_two (by omega)
    have hless : limit ≤ 2 ^ 1024 := sub_le_self _ (by positivity)
    exact (hless.trans hpow).trans hlow'

/-- A ratio is rounded to a number with 53 binary digits, and not moved where it is a multiple of the power of two
that it is rounded at, or to the infinity if it is at the limit. -/
theorem ofRatio_cases {num den : ℕ} (hnum : 0 < num) (hden : 0 < den) :
    (∃ x, ofRatio false num den = finite x ∧ Fits x.toRat ∧
      ∀ units : ℕ, (num : ℚ) / den / 2 ^ exponentOf num den = units → x.toRat = num / den) ∨
    (ofRatio false num den = infinite false ∧ limit ≤ (num : ℚ) / den) := by
  obtain ⟨hleast, hhigh, -⟩ := exponentOf_spec hnum hden
  set e := exponentOf num den with he
  rcases hscaled : scaleRatio num den e with ⟨n, d⟩
  have hd : 0 < d := by simpa [hscaled] using scaleRatio_pos num e hden
  have hratio : (n : ℚ) / d = num / den / 2 ^ e := by simpa [hscaled] using scaleRatio_div num den e
  have hpow : (0 : ℚ) < 2 ^ e := by positivity
  have hround := @roundRatio_le n d hd
  rw [hratio] at hround
  set units := roundRatio n d with hunits
  have hbound : units ≤ 2 ^ 53 := by
    have hless : (num : ℚ) / den / 2 ^ e < 2 ^ 53 := by
      rw [div_lt_iff₀ hpow]
      simpa [add_comm, zpow_add₀] using hhigh
    have hless' : (units : ℚ) < 2 ^ 53 + 1 := by linarith
    exact Nat.lt_succ_iff.mp (by exact_mod_cast hless')
  by_cases hzero : units ≠ 0 ∧ 1024 ≤ (units.log2 : ℤ) + e
  · refine .inr ⟨?_, limit_le hnum hden hbound hzero.1 hround hzero.2⟩
    simp [ofRatio, ← he, hscaled, ← hunits, hzero.1, hzero.2]
  · have hvalue : (Dyadic.ofIntWithPrec units (-e)).toRat = units * 2 ^ e := by
      rw [Dyadic.toRat_ofIntWithPrec_eq_mul_two_pow, neg_neg]
      rfl
    refine .inl ⟨Dyadic.ofIntWithPrec units (-e), ?_, ⟨units, e, hbound, hleast, hvalue⟩, ?_⟩
    · by_cases hnone : units = 0
      · simp [ofRatio, ← he, hscaled, ← hunits, hnone, zero, Dyadic.ofIntWithPrec_zero]
      · have hsmall : ¬ 1024 ≤ (units.log2 : ℤ) + e := fun hlarge => hzero ⟨hnone, hlarge⟩
        simp [ofRatio, ← he, hscaled, ← hunits, hnone, hsmall]
    · intro k hk
      rw [hvalue, hunits, roundRatio_eq hd (hratio.trans hk), ← hk]
      exact div_mul_cancel₀ _ hpow.ne'

/-! ## What is kept as it is -/

/-- A ratio with 53 binary digits is a multiple of the power of two that it is rounded at. -/
theorem exists_units {num den : ℕ} (hnum : 0 < num) (hden : 0 < den) (hfits : Fits ((num : ℚ) / den)) :
    ∃ units : ℕ, (num : ℚ) / den / 2 ^ exponentOf num den = units := by
  obtain ⟨-, -, hlow⟩ := exponentOf_spec hnum hden
  obtain ⟨m, e', hm, he', hvalue⟩ := hfits
  set e := exponentOf num den
  rcases le_or_gt e e' with hle | hlt
  · obtain ⟨k, hk⟩ := Int.eq_ofNat_of_zero_le (sub_nonneg.mpr hle)
    refine ⟨m * 2 ^ k, ?_⟩
    obtain rfl : e' = e + k := by omega
    rw [hvalue, zpow_add₀ two_ne_zero]
    field_simp
    simp
  · -- only the power of two that follows the numbers with 53 digits is rounded at a larger one
    have hlow' := hlow.resolve_left (by omega)
    rw [hvalue, show e + 52 = (e - e' + 52) + e' by ring, zpow_add₀ two_ne_zero,
      mul_le_mul_iff_left₀ (by positivity)] at hlow'
    have hm' : (m : ℚ) ≤ 2 ^ (53 : ℤ) := by exact_mod_cast hm
    have hone : e - e' + 52 ≤ 53 := (zpow_le_zpow_iff_right₀ one_lt_two).mp (hlow'.trans hm')
    have hnext : e = e' + 1 := by omega
    have hexact : (m : ℚ) = 2 ^ 53 := by
      refine le_antisymm hm' ?_
      rw [hnext, show e' + 1 - e' + 52 = (53 : ℤ) by ring] at hlow'
      exact_mod_cast hlow'
    refine ⟨2 ^ 52, ?_⟩
    rw [hvalue, hexact, hnext, zpow_add_one₀ two_ne_zero]
    field_simp
    norm_num

theorem natAbs_div_den {q : ℚ} (h : 0 ≤ q) : (q.num.natAbs : ℚ) / q.den = q := by
  rw [Nat.cast_natAbs, abs_of_nonneg (Rat.num_nonneg.mpr h)]
  exact q.num_div_den

theorem round_eq_ofRatio {x : Dyadic} (h : 0 < x.toRat) :
    round x = ofRatio false x.toRat.num.natAbs x.toRat.den := by
  have hnum := Rat.num_pos.mpr h
  rw [round, if_neg hnum.ne', decide_eq_false (not_lt.mpr hnum.le)]

/-- A number with 53 binary digits below the limit is kept as it is. -/
theorem round_eq_self {x : Dyadic} (hpos : 0 ≤ x.toRat) (hfits : Fits x.toRat) (hlimit : x.toRat < limit) :
    round x = finite x := by
  rcases hpos.eq_or_lt with hzero | hpos
  · obtain rfl : x = 0 := Dyadic.toRat_eq_zero_iff.mp hzero.symm
    rfl
  · have hnum : 0 < x.toRat.num.natAbs := Int.natAbs_pos.mpr (Rat.num_pos.mpr hpos).ne'
    have hratio := natAbs_div_den hpos.le
    rw [round_eq_ofRatio hpos]
    rcases ofRatio_cases hnum x.toRat.den_pos with ⟨y, hy, -, hexact⟩ | ⟨-, hlarge⟩
    · obtain ⟨units, hunits⟩ := exists_units hnum x.toRat.den_pos (hratio.symm ▸ hfits)
      rw [hy, Dyadic.toRat_inj.mp ((hexact units hunits).trans hratio)]
    · rw [hratio] at hlarge
      exact absurd hlarge (not_le.mpr hlimit)

/-- What rounding keeps as it is has 53 binary digits. -/
theorem fits_of_round {x : Dyadic} (hpos : 0 ≤ x.toRat) (h : round x = finite x) : Fits x.toRat := by
  rcases hpos.eq_or_lt with hzero | hpos
  · exact ⟨0, 0, by simp, by simp, by simp [← hzero]⟩
  · have hnum : 0 < x.toRat.num.natAbs := Int.natAbs_pos.mpr (Rat.num_pos.mpr hpos).ne'
    rw [round_eq_ofRatio hpos] at h
    rcases ofRatio_cases hnum x.toRat.den_pos with ⟨y, hy, hfits, -⟩ | ⟨hy, -⟩
    · rw [hy] at h
      cases h
      exact hfits
    · rw [hy] at h
      cases h

end Binary64

/-! ## Doubling -/

namespace Number

open Binary64

/-- The number has the value, and rounding keeps it as it is. -/
structure IsExactly (x : Number) (q : ℚ) : Prop where
  value : x.value.dyadic?.map Dyadic.toRat = some q
  rounded : ∀ y, x = .real (.finite y) → round y = .finite y

theorem toRat_ofInt (n : ℤ) : (Dyadic.ofInt n).toRat = n := Dyadic.toRat_intCast n

/-- The number has 53 binary digits; the others are whole numbers. -/
def IsReal (x : Number) : Prop := ∃ y, x = .real y

theorem isReal_twice_iff {x : Number} : x.twice.IsReal ↔ x.IsReal := by
  cases x <;> simp [IsReal, Number.twice]

/-- Twice a number is kept exactly too, one with 53 binary digits below the limit. -/
theorem IsExactly.twice {x : Number} {q : ℚ} (h : x.IsExactly q) (hpos : 0 ≤ q)
    (hlimit : x.IsReal → 2 * q < limit) : x.twice.IsExactly (2 * q) := by
  obtain ⟨hvalue, hrounded⟩ := h
  cases x with
  | bool b =>
    obtain rfl : (if b then 1 else 0 : Dyadic).toRat = q := by simpa [Number.value, dyadic?] using hvalue
    refine ⟨?_, by simp [Number.twice]⟩
    cases b
    · simp [Number.twice, Number.value, dyadic?, toRat_ofInt]
    · have hone : (1 : Dyadic).toRat = 1 := Dyadic.toRat_natCast 1
      simp [Number.twice, Number.value, dyadic?, toRat_ofInt, hone]
  | int n =>
    obtain rfl : (n : ℚ) = q := by simpa [Number.value, dyadic?, toRat_ofInt] using hvalue
    refine ⟨?_, by simp [Number.twice]⟩
    simp [Number.twice, Number.value, dyadic?, toRat_ofInt]
  | real x =>
    cases x with
    | finite y =>
      obtain rfl : y.toRat = q := by simpa [Number.value, dyadic?] using hvalue
      have hdouble : (y + y).toRat = 2 * y.toRat := by rw [Dyadic.toRat_add, two_mul]
      have hround : round (y + y) = .finite (y + y) := by
        refine round_eq_self ?_ ?_ ?_
        · rw [hdouble]
          positivity
        · rw [hdouble]
          exact (fits_of_round hpos (hrounded y rfl)).double
        · rw [hdouble]
          exact hlimit ⟨_, rfl⟩
      refine ⟨?_, ?_⟩
      · simp [Number.twice, Number.value, double, hround, dyadic?, hdouble]
      · rintro z hz
        obtain rfl : y + y = z := by simpa [Number.twice, double, hround] using hz
        exact hround
    | negativeZero =>
      obtain rfl : 0 = q := by simpa [Number.value, dyadic?] using hvalue
      exact ⟨by simp [Number.twice, Number.value, double, dyadic?], by simp [Number.twice, double]⟩
    | infinite negative => simp [Number.value, dyadic?] at hvalue
    | nan => simp [Number.value, dyadic?] at hvalue

/-- A number below the limit can be written as a number of seconds. -/
theorem IsExactly.exists_toBinary64 {x : Number} {q : ℚ} (h : x.IsExactly q) (hpos : 0 ≤ q) (hlimit : q < limit) :
    ∃ seconds, x.toBinary64? = some seconds := by
  cases x with
  | bool b => exact ⟨_, rfl⟩
  | int n =>
    obtain rfl : (n : ℚ) = q := by simpa [Number.value, dyadic?, toRat_ofInt] using h.value
    rw [Number.toBinary64?, ofInt?]
    by_cases hzero : n = 0
    · simp [ofInt, hzero]
    · have hn : 0 < n := by
        have hnonneg : 0 ≤ n := by exact_mod_cast hpos
        omega
      have habs : ((n.natAbs : ℕ) : ℚ) / (1 : ℕ) = n := by
        rw [Nat.cast_natAbs, abs_of_pos hn]
        simp
      rcases ofRatio_cases (Int.natAbs_pos.mpr hzero) one_pos with ⟨y, hy, -⟩ | ⟨-, hlarge⟩
      · have hround : ofInt n = .finite y := by
          rw [ofInt, if_neg hzero, decide_eq_false (by omega), hy]
        simp [hround]
      · rw [habs] at hlarge
        exact absurd hlarge (not_le.mpr hlimit)
  | real x => exact ⟨x, rfl⟩

/-- A whole number has its own value. -/
theorem value_of_toInt? {x : Number} {n : ℤ} (h : x.toInt? = some n) :
    x.value.dyadic?.map Dyadic.toRat = some (n : ℚ) := by
  cases x with
  | bool b =>
    obtain rfl : (if b then 1 else 0 : ℤ) = n := by simpa [toInt?] using h
    have hone : (1 : Dyadic).toRat = 1 := Dyadic.toRat_natCast 1
    cases b <;> simp [Number.value, dyadic?, hone]
  | int m =>
    obtain rfl : m = n := by simpa [toInt?] using h
    simp [Number.value, dyadic?, toRat_ofInt]
  | real y => simp [toInt?] at h

/-- A number that is not below a whole number has no less a value. -/
theorem le_of_isBelow {x : Number} {q : ℚ} {least : ℤ} (hvalue : x.value.dyadic?.map Dyadic.toRat = some q)
    (h : x.isBelow least = false) : (least : ℚ) ≤ q := by
  obtain ⟨d, hd, rfl⟩ := Option.map_eq_some_iff.mp hvalue
  have hless : ¬ d.toRat < (Dyadic.ofInt least).toRat := by
    rw [Dyadic.toRat_lt_toRat_iff]
    simpa [isBelow, hd] using h
  rw [toRat_ofInt] at hless
  exact not_lt.mp hless

theorem isReal_iterate_twice_iff {x : Number} (i : ℕ) : (Number.twice^[i] x).IsReal ↔ x.IsReal := by
  induction i with
  | zero => rfl
  | succ i ih => rw [Function.iterate_succ_apply', isReal_twice_iff, ih]

/-- A number that is doubled again and again is kept exactly, one with 53 binary digits while it is below the
limit. -/
theorem IsExactly.iterate_twice {x : Number} {q : ℚ} (h : x.IsExactly q) (hpos : 0 ≤ q) {i : ℕ}
    (hlimit : x.IsReal → q * 2 ^ i < limit) : (Number.twice^[i] x).IsExactly (q * 2 ^ i) := by
  induction i with
  | zero => simpa using h
  | succ i ih =>
    have hnext : q * 2 ^ (i + 1) = 2 * (q * 2 ^ i) := by ring
    have hnonneg : 0 ≤ q * 2 ^ i := by positivity
    rw [hnext] at hlimit ⊢
    rw [Function.iterate_succ_apply']
    refine (ih fun hreal => ?_).twice hnonneg fun hreal => hlimit ((isReal_iterate_twice_iff i).mp hreal)
    have hless := hlimit hreal
    linarith

end Number

end RowGuard
