import Mathlib
import RowGuard.Database.Value

/-!
# Equal values

The equality of values relates texts that are the same and numbers that denote the same. It is symmetric and
transitive, but null is not equal to itself: what is equal to one value is equal among itself.
-/

namespace RowGuard

namespace Number

theorem same_iff {a b : Number} :
    a.same b = true ↔
      a.value.dyadic? = b.value.dyadic? ∧ (a.value.dyadic? = none → a.value = b.value) := by
  unfold same
  cases a.value.dyadic? <;> cases b.value.dyadic? <;> simp

theorem same_trans {a b c : Number} (hab : a.same b = true) (hbc : b.same c = true) :
    a.same c = true := by
  rw [same_iff] at *
  obtain ⟨hab, hab'⟩ := hab
  obtain ⟨hbc, hbc'⟩ := hbc
  refine ⟨hab.trans hbc, ?_⟩
  intro hnone
  exact (hab' hnone).trans (hbc' (hab ▸ hnone))

theorem ofInt_inj {m n : Int} : Dyadic.ofInt m = Dyadic.ofInt n ↔ m = n := by
  rw [← Dyadic.toRat_inj]
  show (m : Dyadic).toRat = (n : Dyadic).toRat ↔ m = n
  rw [Dyadic.toRat_intCast, Dyadic.toRat_intCast]
  exact Rat.intCast_inj

theorem same_int_iff {m n : Int} : (int m).same (int n) = true ↔ m = n := by
  rw [same_iff]
  simp only [value, Binary64.dyadic?, Option.some.injEq, reduceCtorEq, false_implies, and_true]
  exact ofInt_inj

end Number

namespace Value

variable {u v w : Value}

theorem eq_of_numbers {a b : Number} (hv : v.number? = some a) (hw : w.number? = some b) :
    v.eq w = a.same b := by
  cases v with
  | null => simp [number?] at hv
  | text _ => simp [number?] at hv
  | int m =>
    obtain rfl := Option.some.inj hv
    cases w with
    | null => simp [number?] at hw
    | text _ => simp [number?] at hw
    | int n =>
      obtain rfl := Option.some.inj hw
      rw [Bool.eq_iff_iff, Number.same_int_iff]
      simp [eq]
    | real y => obtain rfl := Option.some.inj hw; rfl
  | real x =>
    obtain rfl := Option.some.inj hv
    cases w with
    | null => simp [number?] at hw
    | text _ => simp [number?] at hw
    | int n => obtain rfl := Option.some.inj hw; rfl
    | real y => obtain rfl := Option.some.inj hw; rfl

/-- Equal are texts that are the same and numbers that denote the same. -/
theorem eq_iff : v.eq w = true ↔
    (∃ s, v = .text s ∧ w = .text s) ∨
      ∃ a b, v.number? = some a ∧ w.number? = some b ∧ a.same b = true := by
  constructor
  · intro h
    cases hv : v.number? with
    | some a =>
      cases hw : w.number? with
      | some b =>
        rw [eq_of_numbers hv hw] at h
        exact .inr ⟨a, b, rfl, rfl, h⟩
      | none => cases v <;> cases w <;> simp_all [eq, number?]
    | none => cases v <;> cases w <;> simp_all [eq, number?]
  · rintro (⟨s, rfl, rfl⟩ | ⟨a, b, hv, hw, hsame⟩)
    · simp [eq]
    · rw [eq_of_numbers hv hw]
      exact hsame

theorem eq_symm (h : v.eq w = true) : w.eq v = true := by
  rw [eq_iff] at *
  rcases h with ⟨s, hv, hw⟩ | ⟨a, b, hv, hw, hsame⟩
  · exact .inl ⟨s, hw, hv⟩
  · exact .inr ⟨b, a, hw, hv, by rw [Number.same_comm]; exact hsame⟩

theorem eq_trans (huv : u.eq v = true) (hvw : v.eq w = true) : u.eq w = true := by
  rw [eq_iff] at *
  rcases huv with ⟨s, rfl, rfl⟩ | ⟨a, b, hu, hv, hab⟩
  · rcases hvw with ⟨t, hv, rfl⟩ | ⟨_, _, hv, _⟩
    · cases hv
      exact .inl ⟨s, rfl, rfl⟩
    · simp [number?] at hv
  · rcases hvw with ⟨t, rfl, _⟩ | ⟨b', c, hv', hw, hbc⟩
    · simp [number?] at hv
    · obtain rfl : b = b' := Option.some.inj (hv.symm.trans hv')
      exact .inr ⟨a, c, hu, hw, Number.same_trans hab hbc⟩

/-- Values that are equal to one value are equal. -/
theorem eq_of_eq_right (huw : u.eq w = true) (hvw : v.eq w = true) : u.eq v = true :=
  eq_trans huw (eq_symm hvw)

end Value

/-- Values of one column that equal the same bare value are equal. -/
theorem Operand.eq_of_eq_bare {u v : Value} {affinity : Affinity} {x : Value}
    (hu : (⟨u, affinity⟩ : Operand).eq (.bare x) = true)
    (hv : (⟨v, affinity⟩ : Operand).eq (.bare x) = true) : u.eq v = true := by
  cases affinity with
  | text => exact Value.eq_of_eq_right hu hv
  | numeric => exact Value.eq_of_eq_right hu hv
  | none => exact Value.eq_of_eq_right hu hv

end RowGuard
