import Mathlib

/-!
# Counting what is named

Names are given and items are kept, and a name fits at most one of the items. Then as many items as names
are kept only if every name fits one that is kept and no two names fit the same
(`length_eq_length_iff`): the fits are counted once from the items and once from the names.
-/

namespace RowGuard.Counting

section Sums

variable {α : Type} {f : α → Nat} {l : List α}

theorem length_le_sum (h : ∀ a ∈ l, 1 ≤ f a) : l.length ≤ (l.map f).sum := by
  induction l with
  | nil => simp
  | cons a rest ih =>
    have hfirst := h a List.mem_cons_self
    have hrest := ih fun b hb => h b (List.mem_cons_of_mem _ hb)
    simp only [List.length_cons, List.map_cons, List.sum_cons]
    omega

theorem sum_le_length (h : ∀ a ∈ l, f a ≤ 1) : (l.map f).sum ≤ l.length := by
  induction l with
  | nil => simp
  | cons a rest ih =>
    have hfirst := h a List.mem_cons_self
    have hrest := ih fun b hb => h b (List.mem_cons_of_mem _ hb)
    simp only [List.length_cons, List.map_cons, List.sum_cons]
    omega

theorem sum_eq_length_iff_of_le (h : ∀ a ∈ l, f a ≤ 1) :
    (l.map f).sum = l.length ↔ ∀ a ∈ l, f a = 1 := by
  induction l with
  | nil => simp
  | cons a rest ih =>
    have hfirst := h a List.mem_cons_self
    have hle := sum_le_length fun b hb => h b (List.mem_cons_of_mem _ hb)
    have hrest := ih fun b hb => h b (List.mem_cons_of_mem _ hb)
    rw [List.forall_mem_cons, ← hrest]
    simp only [List.length_cons, List.map_cons, List.sum_cons]
    omega

theorem sum_eq_length_iff_of_ge (h : ∀ a ∈ l, 1 ≤ f a) :
    (l.map f).sum = l.length ↔ ∀ a ∈ l, f a = 1 := by
  induction l with
  | nil => simp
  | cons a rest ih =>
    have hfirst := h a List.mem_cons_self
    have hle := length_le_sum fun b hb => h b (List.mem_cons_of_mem _ hb)
    have hrest := ih fun b hb => h b (List.mem_cons_of_mem _ hb)
    rw [List.forall_mem_cons, ← hrest]
    simp only [List.length_cons, List.map_cons, List.sum_cons]
    omega

/-- At most one item passes a test when no two do. -/
theorem countP_le_one_iff {p : α → Bool} :
    l.countP p ≤ 1 ↔ l.Pairwise fun a b => ¬(p a = true ∧ p b = true) := by
  induction l with
  | nil => simp
  | cons a rest ih =>
    rw [List.pairwise_cons, ← ih, List.countP_cons]
    by_cases ha : p a = true
    · have hzero : rest.countP p ≤ 0 ↔ ∀ b ∈ rest, ¬ p b = true := by
        rw [Nat.le_zero, List.countP_eq_zero]
      simp only [ha, if_true, true_and, ← hzero]
      omega
    · simp [ha]

end Sums

section Fits

variable {α β : Type} {names : List α} {items : List β} {fits : α → β → Bool}

theorem sum_countP_cons (x : β) :
    (names.map fun a => (x :: items).countP (fits a)).sum =
      (names.map fun a => items.countP (fits a)).sum + names.countP fun a => fits a x := by
  induction names with
  | nil => simp
  | cons a others ih =>
    simp only [List.map_cons, List.sum_cons, List.countP_cons] at *
    omega

/-- Counting the fits item by item and name by name gives the same. -/
theorem sum_countP_comm (names : List α) (items : List β) (fits : α → β → Bool) :
    (items.map fun x => names.countP fun a => fits a x).sum =
      (names.map fun a => items.countP (fits a)).sum := by
  induction items with
  | nil => simp
  | cons x rest ih => rw [List.map_cons, List.sum_cons, ih, sum_countP_cons, Nat.add_comm]

/-- Where every item has a name that fits it and every name fits at most one, there are at most as many items as
names. -/
theorem length_le_length (hnamed : ∀ x ∈ items, ∃ a ∈ names, fits a x = true)
    (hunique : ∀ a ∈ names, items.Pairwise fun x y => ¬(fits a x = true ∧ fits a y = true)) :
    items.length ≤ names.length :=
  calc
    items.length ≤ (items.map fun x => names.countP fun a => fits a x).sum :=
      length_le_sum fun x hx => List.countP_pos_iff.mpr (hnamed x hx)
    _ = (names.map fun a => items.countP (fits a)).sum := sum_countP_comm names items fits
    _ ≤ names.length := sum_le_length fun a ha => countP_le_one_iff.mpr (hunique a ha)

/-- Where every item has a name that fits it and every name fits at most one, there are as many items as
names only if every name fits an item and no two names fit the same. -/
theorem length_eq_length_iff (hnamed : ∀ x ∈ items, ∃ a ∈ names, fits a x = true)
    (hunique : ∀ a ∈ names, items.Pairwise fun x y => ¬(fits a x = true ∧ fits a y = true)) :
    items.length = names.length ↔
      (∀ a ∈ names, ∃ x ∈ items, fits a x = true) ∧
        ∀ x ∈ items, names.Pairwise fun a b => ¬(fits a x = true ∧ fits b x = true) := by
  -- the fits are as many as items at least and as names at most, so equality leaves no slack in either
  have hge : ∀ x ∈ items, 1 ≤ names.countP fun a => fits a x := fun x hx =>
    List.countP_pos_iff.mpr (hnamed x hx)
  have hle : ∀ a ∈ names, items.countP (fits a) ≤ 1 := fun a ha =>
    countP_le_one_iff.mpr (hunique a ha)
  have hitems := length_le_sum hge
  have hnames := sum_le_length hle
  have hitems' := sum_eq_length_iff_of_ge hge
  have hnames' := sum_eq_length_iff_of_le hle
  have hcomm := sum_countP_comm names items fits
  have hfits : (∀ a ∈ names, ∃ x ∈ items, fits a x = true) ↔
      ∀ a ∈ names, items.countP (fits a) = 1 := by
    refine forall₂_congr ?_
    intro a ha
    rw [← List.countP_pos_iff]
    have hone := hle a ha
    omega
  have hapart : (∀ x ∈ items, names.Pairwise fun a b => ¬(fits a x = true ∧ fits b x = true)) ↔
      ∀ x ∈ items, (names.countP fun a => fits a x) = 1 := by
    refine forall₂_congr ?_
    intro x hx
    rw [← countP_le_one_iff]
    have hone := hge x hx
    omega
  rw [hfits, hapart, ← hnames', ← hitems']
  omega

end Fits

end RowGuard.Counting
