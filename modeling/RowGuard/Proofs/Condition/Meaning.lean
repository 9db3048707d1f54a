import RowGuard.Condition.Meaning

/-!
# Values written and bound

A condition is tested in two ways: with its values bound, on an identity that is bound as well, and with its
values written into a statement, on the identity column. The answers agree when each value denotes the same
either way (`Literal.Faithful`) and the identity compares in the same way (`Condition.holds_congr`).
-/

namespace RowGuard

namespace Literal

/-- The literal can be bound and read, and denotes the same value in both ways. -/
structure Faithful (l : Literal) : Prop where
  readable : l.isReadable = true
  fits : l.bound.fits = true
  binds : Value.bind l.type l.value = .ok l.written

theorem Faithful.bound_eq {l : Literal} (h : l.Faithful) : l.bound = l.written := by
  rw [bound, h.binds]

/-- A text is written and bound as itself where texts are expected. -/
theorem faithful_text {s : String} {type : Option ColumnType}
    (h : ∀ t, type = some t → t.affinity = .text ∧ t ≠ .uuid) : Faithful ⟨.text s, type⟩ := by
  cases type with
  | none => exact ⟨rfl, rfl, rfl⟩
  | some t =>
    obtain ⟨htext, huuid⟩ := h t rfl
    cases t with
    | text => exact ⟨rfl, rfl, rfl⟩
    | string => exact ⟨rfl, rfl, rfl⟩
    | enumeration _ _ => exact ⟨rfl, rfl, rfl⟩
    | uuid => exact absurd rfl huuid
    | integer => simp [ColumnType.affinity] at htext
    | bigInteger => simp [ColumnType.affinity] at htext
    | numeric => simp [ColumnType.affinity] at htext
    | boolean => simp [ColumnType.affinity] at htext

/-- A whole number is written and bound as itself if it can be stored. -/
theorem faithful_int {n : Int} {type : Option ColumnType} (hn : Value.isStorable n = true)
    (h : ∀ t, type = some t → t = .integer ∨ t = .bigInteger) : Faithful ⟨.int n, type⟩ := by
  have hwritten : writtenInt n = .int n := by rw [writtenInt, if_pos hn]
  cases type with
  | none => exact ⟨rfl, hn, congrArg Except.ok hwritten.symm⟩
  | some t =>
    rcases h t rfl with rfl | rfl
    · exact ⟨rfl, hn, congrArg Except.ok hwritten.symm⟩
    · exact ⟨rfl, hn, congrArg Except.ok hwritten.symm⟩

end Literal

namespace Clause

variable {db : Database} {v w : Literal → Value}

theorem actorMatches_congr {fact : Subquery} {subject : Literal} {roles : List String}
    (h : ∀ l ∈ subject :: roleLiterals fact roles, v l = w l) (row : List Operand) :
    actorMatches v fact subject roles row = actorMatches w fact subject roles row := by
  have hroles : ((roleLiterals fact roles).any fun r => (operandAt row 1).eq (.bare (v r))) =
      (roleLiterals fact roles).any fun r => (operandAt row 1).eq (.bare (w r)) := by
    rw [Bool.eq_iff_iff, List.any_eq_true, List.any_eq_true]
    refine exists_congr ?_
    intro r
    refine and_congr_right ?_
    intro hr
    rw [h r (List.mem_cons_of_mem _ hr)]
  unfold actorMatches
  rw [hroles, h subject List.mem_cons_self]

mutual

/-- A clause depends on no literals but its own. -/
theorem holds_congr_value (x : Operand) :
    ∀ c : Clause, (∀ l ∈ c.literals, v l = w l) → c.holds db v x = c.holds db w x
  | .role fact subject roles, h => by
    simp only [holds, actorMatches_congr h]
  | .globalRole fact subject roles, h => by
    simp only [holds, actorMatches_congr h]
  | .related fact inner, h => by
    have hinner : ∀ y, someHolds db v y inner = someHolds db w y inner := fun y =>
      someHolds_congr_value y inner h
    simp only [holds, hinner]
  | .hasAttribute fact, _ => rfl

theorem someHolds_congr_value (x : Operand) :
    ∀ cs : List Clause, (∀ l ∈ literalsOfAll cs, v l = w l) →
      someHolds db v x cs = someHolds db w x cs
  | [], _ => rfl
  | c :: rest, h => by
    have hc := holds_congr_value x c fun l hl => h l (List.mem_append_left _ hl)
    have hrest := someHolds_congr_value x rest fun l hl => h l (List.mem_append_right _ hl)
    rw [someHolds, someHolds, hc, hrest]

end

/-- What the rows of the clause's own fact query compare the target with. -/
def targets (db : Database) : Clause → List Operand
  | .role fact _ _ => (fact.rows db).map (operandAt · 2)
  | .globalRole _ _ _ => []
  | .related fact _ | .hasAttribute fact => (fact.rows db).map (operandAt · 0)

/-- A clause depends on its target only in what that is equal to. -/
theorem holds_congr_target {x y : Operand} (c : Clause)
    (h : ∀ z ∈ c.targets db, x.eq z = y.eq z) : c.holds db v x = c.holds db v y := by
  have hrow : ∀ {fact : Subquery} {i : Nat} {p : List Operand → Bool},
      (∀ z ∈ (fact.rows db).map (operandAt · i), x.eq z = y.eq z) →
        ((fact.rows db).any fun row => p row && x.eq (operandAt row i)) =
          (fact.rows db).any fun row => p row && y.eq (operandAt row i) := by
    intro fact i p hz
    rw [Bool.eq_iff_iff, List.any_eq_true, List.any_eq_true]
    refine exists_congr ?_
    intro row
    refine and_congr_right ?_
    intro hr
    rw [hz _ (List.mem_map_of_mem hr)]
  cases c with
  | role fact subject roles => exact hrow h
  | globalRole fact subject roles => rfl
  | related fact inner =>
    simp only [holds, Bool.and_comm (x.eq _), Bool.and_comm (y.eq _)]
    exact hrow h
  | hasAttribute fact =>
    have hall := hrow (p := fun _ => true) h
    simpa only [holds, Bool.true_and] using hall

end Clause

namespace Condition

variable {db : Database} {v w : Literal → Value} {c : Condition}

theorem holds_eq_any (x : Operand) : c.holds db v x = c.any fun clause => clause.holds db v x := by
  show Clause.someHolds db v x c = _
  induction c with
  | nil => rfl
  | cons clause rest ih => rw [Clause.someHolds, ih, List.any_cons]

/-- What the target of a condition is compared with. -/
def targets (db : Database) (c : Condition) : List Operand := c.flatMap (Clause.targets db)

/-- A condition depends on its literals, and on its target in what that is equal to. -/
theorem holds_congr {x y : Operand} (hvalue : ∀ l ∈ c.literals none, v l = w l)
    (htarget : ∀ z ∈ c.targets db, x.eq z = y.eq z) : c.holds db v x = c.holds db w y := by
  have hliterals : ∀ l ∈ Clause.literalsOfAll c, v l = w l := fun l hl =>
    hvalue l (List.mem_append_left _ (List.mem_append_right _ hl))
  have hvalues : c.holds db v x = c.holds db w x := Clause.someHolds_congr_value x c hliterals
  rw [hvalues, holds_eq_any, holds_eq_any, Bool.eq_iff_iff, List.any_eq_true, List.any_eq_true]
  refine exists_congr ?_
  intro clause
  refine and_congr_right ?_
  intro hclause
  rw [clause.holds_congr_target fun z hz => htarget z (List.mem_flatMap.mpr ⟨_, hclause, hz⟩)]

end Condition

/-- A stored value compares with a column of the same affinity as it does when it is bound. -/
theorem Operand.eq_bare_of_stored {v : Value} {affinity : Affinity} (hv : affinity.apply v = v)
    {z : Operand} (hz : z.affinity = affinity) :
    (⟨v, affinity⟩ : Operand).eq z = (Operand.bare v).eq z := by
  obtain ⟨w, affinity'⟩ := z
  obtain rfl : affinity' = affinity := hz
  cases affinity' with
  | text =>
    show v.eq w = v.toText.eq w
    rw [show v.toText = v from hv]
  | numeric =>
    show v.eq w = v.toNumeric.eq w
    rw [show v.toNumeric = v from hv]
  | none => rfl

end RowGuard
