import Mathlib
import RowGuard.Database.Order
import RowGuard.Listing.Plan
import RowGuard.Proofs.Database.Equality

/-!
# Ordered rows

Apart from what is no number, values are totally ordered by `Value.lt`, so sorting rows by a column puts
them in the order of its values (`pairwise_mergeSort`).
-/

namespace RowGuard

namespace Number

/-- The number is ordered beside others. -/
def IsOrdered (a : Number) : Prop := a.value ≠ .nan

theorem isOrdered_iff {a : Number} : a.IsOrdered ↔ ∃ s, a.value.side? = some s := by
  unfold IsOrdered
  cases a.value <;> simp [Binary64.side?]

/-- A finite number is on neither side, an infinite one on its own. -/
theorem side_of_dyadic {x : Binary64} {d : Dyadic} (h : x.dyadic? = some d) : x.side? = some 0 := by
  cases x <;> simp_all [Binary64.dyadic?, Binary64.side?]

theorem side_ne_zero {x : Binary64} {s : Int} (hd : x.dyadic? = none) (hs : x.side? = some s) :
    s ≠ 0 := by
  cases x with
  | finite => simp [Binary64.dyadic?] at hd
  | negativeZero => simp [Binary64.dyadic?] at hd
  | infinite negative =>
    simp only [Binary64.side?, Option.some.injEq] at hs
    subst hs
    cases negative <;> simp
  | nan => simp [Binary64.side?] at hs

theorem atMost_total {a b : Number} (ha : a.IsOrdered) (hb : b.IsOrdered) :
    a.atMost b = true ∨ b.atMost a = true := by
  obtain ⟨s, hs⟩ := isOrdered_iff.mp ha
  obtain ⟨t, ht⟩ := isOrdered_iff.mp hb
  unfold atMost
  cases hda : a.value.dyadic? with
  | none => cases b.value.dyadic? <;> simp [hs, ht] <;> omega
  | some x =>
    cases hdb : b.value.dyadic? with
    | none => simp [hs, ht]; omega
    | some y => simpa using Dyadic.le_total x y

/-- A number that is at most another is not on a side above it. -/
theorem side_le_of_atMost {a b : Number} (h : a.atMost b = true) :
    ∃ s t, a.value.side? = some s ∧ b.value.side? = some t ∧ s ≤ t := by
  unfold atMost at h
  split at h
  case h_1 x y hx hy => exact ⟨0, 0, side_of_dyadic hx, side_of_dyadic hy, Int.le_refl 0⟩
  case h_2 =>
    split at h
    case h_1 s t hs ht => exact ⟨s, t, hs, ht, by simpa using h⟩
    case h_2 => simp at h

theorem atMost_of_side_le {a b : Number} {s t : Int} (hs : a.value.side? = some s)
    (ht : b.value.side? = some t) (hle : s ≤ t)
    (h : a.value.dyadic? = none ∨ b.value.dyadic? = none) : a.atMost b = true := by
  unfold atMost
  split
  case h_1 x y hx hy => simp [hx, hy] at h
  case h_2 => simp [hs, ht, hle]

theorem atMost_trans {a b c : Number} (hab : a.atMost b = true) (hbc : b.atMost c = true) :
    a.atMost c = true := by
  obtain ⟨s, t, hs, ht, hst⟩ := side_le_of_atMost hab
  obtain ⟨t', u, ht', hu, htu⟩ := side_le_of_atMost hbc
  obtain rfl : t = t' := Option.some.inj (ht.symm.trans ht')
  cases hda : a.value.dyadic? with
  | none => exact atMost_of_side_le hs hu (Int.le_trans hst htu) (.inl hda)
  | some x =>
    cases hdc : c.value.dyadic? with
    | none => exact atMost_of_side_le hs hu (Int.le_trans hst htu) (.inr hdc)
    | some z =>
      -- between two finite numbers stands no infinite one
      cases hdb : b.value.dyadic? with
      | none =>
        have h0 : s = 0 := Option.some.inj (hs.symm.trans (side_of_dyadic hda))
        have h0' : u = 0 := Option.some.inj (hu.symm.trans (side_of_dyadic hdc))
        have hne := side_ne_zero hdb ht
        omega
      | some y =>
        simp only [atMost, hda, hdb, hdc, decide_eq_true_eq] at *
        exact Dyadic.le_trans hab hbc

end Number

namespace Value

/-- The value is ordered beside others: it is no number that is none. -/
def IsOrdered (v : Value) : Prop := v ≠ .real .nan

theorem ofScalar_isOrdered (s : Scalar) : (ofScalar s).IsOrdered := by
  unfold IsOrdered
  cases s with
  | real x => cases x <;> simp [ofScalar]
  | _ => simp [ofScalar]

/-- A number that is bound as such is ordered. -/
theorem isOrdered_of_number {x : Option Binary64} {v : Value}
    (h : (match x with
      | some x => .ok (ofScalar (.real x))
      | none => .error .binding : Except SqlFault Value) = .ok v) : v.IsOrdered := by
  cases x with
  | none => simp at h
  | some x =>
    cases h
    exact ofScalar_isOrdered (.real x)

/-- A value that can be bound is ordered. -/
theorem isOrdered_of_bind {type : Option ColumnType} {d : Data} {v : Value} (h : bind type d = .ok v) :
    v.IsOrdered := by
  cases d with
  | scalar s =>
    change bindScalar type s = .ok v at h
    unfold bindScalar at h
    by_cases hnull : s = .null
    · rw [if_pos hnull] at h
      cases h
      simp [IsOrdered]
    · rw [if_neg hnull] at h
      split at h
      case h_1 =>
        split at h
        case isTrue =>
          cases h
          exact ofScalar_isOrdered s
        case isFalse => simp at h
      case h_2 =>
        split at h
        case h_1 =>
          cases h
          simp [IsOrdered]
        case h_2 => simp at h
      case h_3 => exact isOrdered_of_number h
      case h_4 => simp at h
      case h_5 =>
        cases h
        exact ofScalar_isOrdered s
  | _ => simp [bind] at h

theorem number_isOrdered {v : Value} (hv : v.IsOrdered) {a : Number} (h : v.number? = some a) :
    a.IsOrdered := by
  cases v with
  | null => simp [number?] at h
  | int n =>
    obtain rfl : Number.int n = a := by simpa [number?] using h
    simp [Number.IsOrdered, Number.value]
  | real x =>
    obtain rfl : Number.real x = a := by simpa [number?] using h
    intro hnan
    exact hv (congrArg Value.real hnan)
  | text _ => simp [number?] at h

theorem lt_of_rank_lt {v w : Value} (h : v.rank < w.rank) : v.lt w = true := by
  cases v <;> cases w <;> simp_all [rank, lt, number?]

theorem not_lt_of_rank_lt {v w : Value} (h : v.rank < w.rank) : w.lt v = false := by
  cases v <;> cases w <;> simp_all [rank, lt, number?]

theorem rank_le_of_not_lt {v w : Value} (h : w.lt v = false) : v.rank ≤ w.rank := by
  by_contra hrank
  have hlt := lt_of_rank_lt (Nat.lt_of_not_le hrank)
  rw [hlt] at h
  exact Bool.noConfusion h

/-- Of two numbers that are ordered, one comes first unless the other is at most it. -/
theorem lt_of_numbers {v w : Value} (hv : v.IsOrdered) (hw : w.IsOrdered) {a b : Number}
    (ha : v.number? = some a) (hb : w.number? = some b) : v.lt w = !b.atMost a := by
  have htotal := Number.atMost_total (number_isOrdered hv ha) (number_isOrdered hw hb)
  have hlt : v.lt w = (a.atMost b && !b.atMost a) := by
    cases v <;> cases w <;> simp_all [lt, number?]
  rw [hlt]
  cases hab : a.atMost b with
  | false => simp [htotal.resolve_left (by simp [hab])]
  | true => rfl

/-- The values in the class of a value. -/
theorem rank_cases (v : Value) :
    v = .null ∧ v.rank = 0 ∨ (∃ a, v.number? = some a) ∧ v.rank = 1 ∨
      (∃ s, v = .text s) ∧ v.rank = 2 := by
  cases v <;> simp [rank, number?]

theorem not_lt_trans {u v w : Value} (hu : u.IsOrdered) (hv : v.IsOrdered) (hw : w.IsOrdered)
    (huv : v.lt u = false) (hvw : w.lt v = false) : w.lt u = false := by
  have hr := rank_le_of_not_lt huv
  have hr' := rank_le_of_not_lt hvw
  rcases Nat.lt_or_ge u.rank w.rank with hlt | hge
  · exact not_lt_of_rank_lt hlt
  -- all three are of one class
  · rcases rank_cases u with ⟨rfl, h0⟩ | ⟨⟨a, ha⟩, h1⟩ | ⟨⟨s, rfl⟩, h2⟩
    · rcases rank_cases w with ⟨rfl, _⟩ | ⟨_, h⟩ | ⟨_, h⟩
      · rfl
      · omega
      · omega
    · rcases rank_cases v with ⟨_, h⟩ | ⟨⟨b, hb⟩, _⟩ | ⟨_, h⟩
      · omega
      · rcases rank_cases w with ⟨_, h⟩ | ⟨⟨c, hc⟩, _⟩ | ⟨_, h⟩
        · omega
        · rw [lt_of_numbers hv hu hb ha, Bool.not_eq_false'] at huv
          rw [lt_of_numbers hw hv hc hb, Bool.not_eq_false'] at hvw
          rw [lt_of_numbers hw hu hc ha, Number.atMost_trans huv hvw]
          rfl
        · omega
      · omega
    · rcases rank_cases v with ⟨_, h⟩ | ⟨_, h⟩ | ⟨⟨t, rfl⟩, _⟩
      · omega
      · omega
      · rcases rank_cases w with ⟨_, h⟩ | ⟨_, h⟩ | ⟨⟨r, rfl⟩, _⟩
        · omega
        · omega
        · simp only [lt, decide_eq_false_iff_not, not_lt] at *
          exact le_trans huv hvw

theorem not_lt_total {v w : Value} (hv : v.IsOrdered) (hw : w.IsOrdered) :
    w.lt v = false ∨ v.lt w = false := by
  rcases Nat.lt_trichotomy v.rank w.rank with hlt | heq | hlt
  · exact .inl (not_lt_of_rank_lt hlt)
  · rcases rank_cases v with ⟨rfl, h0⟩ | ⟨⟨a, ha⟩, h1⟩ | ⟨⟨s, rfl⟩, h2⟩
    · rcases rank_cases w with ⟨rfl, _⟩ | ⟨_, h⟩ | ⟨_, h⟩
      · exact .inl rfl
      · omega
      · omega
    · rcases rank_cases w with ⟨_, h⟩ | ⟨⟨b, hb⟩, _⟩ | ⟨_, h⟩
      · omega
      · rw [lt_of_numbers hw hv hb ha, lt_of_numbers hv hw ha hb, Bool.not_eq_false',
          Bool.not_eq_false']
        exact Number.atMost_total (number_isOrdered hv ha) (number_isOrdered hw hb)
      · omega
    · rcases rank_cases w with ⟨_, h⟩ | ⟨_, h⟩ | ⟨⟨t, rfl⟩, _⟩
      · omega
      · omega
      · simp only [lt, decide_eq_false_iff_not, not_lt]
        exact le_total s t
  · exact .inr (not_lt_of_rank_lt hlt)

/-- Texts neither of which comes first are the same. -/
theorem eq_of_not_lt_text {s t : String} (h : (text t).lt (text s) = false) (h' : (text s).lt (text t) = false) :
    s = t :=
  le_antisymm (not_lt.mp (of_decide_eq_false h)) (not_lt.mp (of_decide_eq_false h'))

/-- Whole numbers neither of which comes first are the same. -/
theorem eq_of_not_lt_int {m n : Int} (h : (int n).lt (int m) = false) (h' : (int m).lt (int n) = false) :
    m = n := by
  have hordered : ∀ k, (int k).IsOrdered := fun k => by simp [IsOrdered]
  rw [lt_of_numbers (hordered _) (hordered _) rfl rfl, Bool.not_eq_false'] at h h'
  exact Number.ofInt_inj.mp (Dyadic.le_antisymm (of_decide_eq_true h) (of_decide_eq_true h'))

/-- The value, with null in place of what is no number. -/
def clean (v : Value) : Value := if v = .real .nan then .null else v

theorem clean_isOrdered (v : Value) : v.clean.IsOrdered := by
  unfold clean
  split
  case isTrue => simp [IsOrdered]
  case isFalse h => exact h

theorem clean_eq {v : Value} (h : v.IsOrdered) : v.clean = v := if_neg h

end Value

section Sorting

variable {α : Type} (key : α → Value)

/-- The order of the values of items, in which every item has a place. -/
def cleanLe (a b : α) : Bool := !(key b).clean.lt (key a).clean

theorem pairwise_mergeSort_cleanLe (l : List α) :
    (l.mergeSort (cleanLe key)).Pairwise fun a b => cleanLe key a b = true := by
  refine List.pairwise_mergeSort ?_ ?_ l
  · intro a b c hab hbc
    simp only [cleanLe, Bool.not_eq_true'] at *
    exact Value.not_lt_trans (Value.clean_isOrdered _) (Value.clean_isOrdered _)
      (Value.clean_isOrdered _) hab hbc
  · intro a b
    unfold cleanLe
    rcases Value.not_lt_total (key a).clean_isOrdered (key b).clean_isOrdered with h | h
    · simp [h]
    · simp [h]

/-- Sorting puts items into the order of their values. -/
theorem pairwise_mergeSort {l : List α} (hordered : ∀ a ∈ l, (key a).IsOrdered) :
    (l.mergeSort fun a b => !(key b).lt (key a)).Pairwise fun a b => (key b).lt (key a) = false := by
  have hsame : ∀ a ∈ l, (key a).clean = key a := fun a ha => Value.clean_eq (hordered a ha)
  have hsort : (l.mergeSort fun a b => !(key b).lt (key a)) = l.mergeSort (cleanLe key) := by
    have hmap := List.map_mergeSort (f := id) (l := l) (r := fun a b => !(key b).lt (key a))
      (s := cleanLe key) fun a ha b hb => by
        simp only [id, cleanLe, hsame a ha, hsame b hb]
    simpa using hmap
  rw [hsort]
  refine (pairwise_mergeSort_cleanLe key l).imp_of_mem fun {a b} ha hb hab => ?_
  rw [List.mem_mergeSort] at ha hb
  rw [← hsame a ha, ← hsame b hb]
  simpa [cleanLe] using hab

end Sorting

/-- A scan finds everything once. -/
theorem Schema.inScanOrder_perm {α : Type} (s : Schema) (row : α → Row) (items : List α) :
    (s.inScanOrder row items).Perm items := by
  unfold inScanOrder
  split
  case h_1 => exact List.mergeSort_perm _ _
  case h_2 => exact .refl _

/-- A scan finds every row of a table once. -/
theorem Table.scanned_perm (t : Table) : t.scanned.Perm t.rows := t.schema.inScanOrder_perm id t.rows

end RowGuard
