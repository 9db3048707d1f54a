import RowGuard.Proofs.Condition.Meaning
import RowGuard.Proofs.Outcome

/-!
# Conditions of the same shape

Two clauses match if they ask the same of fact queries that stand in a given relation (`Clause.Matches`). Where every
row of the one query is a row of the other, what the one clause holds of, the other one holds of as well
(`Clause.Matches.holds`): no clause asks that a row be missing.
-/

namespace RowGuard

/-- Each row of the first query on the first database is one of the second query on the second, and role names
compare in the same way with the role columns of both. -/
structure Subquery.IncludedIn (value : Literal → Value) (db db' : Database) (q q' : Subquery) : Prop where
  rows : ∀ row ∈ q.rows db, row ∈ q'.rows db'
  role : ∀ r, value ⟨.text r, q.comparedTypeAt 1 (.text r)⟩ = value ⟨.text r, q'.comparedTypeAt 1 (.text r)⟩

namespace Clause

variable {R S : Subquery → Subquery → Prop} {c c' : Clause} {cs cs' : List Clause}

/-- The clauses ask the same of queries that stand in the relation. -/
inductive Matches (R : Subquery → Subquery → Prop) : Clause → Clause → Prop
  | role {q q' subject roles} (h : R q q') : Matches R (.role q subject roles) (.role q' subject roles)
  | globalRole {q q' subject roles} (h : R q q') :
      Matches R (.globalRole q subject roles) (.globalRole q' subject roles)
  | related {q q' inner inner'} (h : R q q') (hlength : inner.length = inner'.length)
      (hinner : ∀ c c', (c, c') ∈ inner.zip inner' → Matches R c c') :
      Matches R (.related q inner) (.related q' inner')
  | hasAttribute {q q'} (h : R q q') : Matches R (.hasAttribute q) (.hasAttribute q')

theorem Matches.of_forall₂ {q q' : Subquery} (h : R q q') (hinner : List.Forall₂ (Matches R) cs cs') :
    Matches R (.related q cs) (.related q' cs') := by
  obtain ⟨hlength, hzip⟩ := List.forall₂_iff_zip.mp hinner
  exact .related h hlength fun c c' hmem => hzip hmem

mutual

/-- A clause matches itself if its queries stand in the relation with themselves. -/
theorem matches_self : ∀ c : Clause, (∀ q ∈ c.facts, R q q) → Matches R c c
  | .role q _ _, h => .role (h q List.mem_cons_self)
  | .globalRole q _ _, h => .globalRole (h q List.mem_cons_self)
  | .related q inner, h =>
    .of_forall₂ (h q List.mem_cons_self) (forall₂_matches_self inner fun q' hq' => h q' (List.mem_cons_of_mem _ hq'))
  | .hasAttribute q, h => .hasAttribute (h q List.mem_cons_self)

/-- Clauses match themselves if their queries stand in the relation with themselves. -/
theorem forall₂_matches_self :
    ∀ cs : List Clause, (∀ q ∈ factsOfAll cs, R q q) → List.Forall₂ (Matches R) cs cs
  | [], _ => .nil
  | c :: rest, h =>
    .cons (matches_self c fun q hq => h q (List.mem_append_left _ hq))
      (forall₂_matches_self rest fun q hq => h q (List.mem_append_right _ hq))

end

theorem someHolds_iff {db : Database} {value : Literal → Value} {x : Operand} :
    someHolds db value x cs = true ↔ ∃ c ∈ cs, holds db value x c = true := by
  induction cs with
  | nil => simp [someHolds]
  | cons c rest ih => simp [someHolds, ih]

theorem actorMatches_of_included {value : Literal → Value} {db db' : Database} {q q' : Subquery} {subject : Literal}
    {roles : List String} (h : q.IncludedIn value db db' q') (row : List Operand) :
    actorMatches value q subject roles row = actorMatches value q' subject roles row := by
  unfold actorMatches roleLiterals
  simp only [List.any_map, Function.comp_def, h.role]

/-- A clause goes on to hold when rows are added to what its queries answer. -/
theorem Matches.holds {value : Literal → Value} {db db' : Database}
    (h : Matches (Subquery.IncludedIn value db db') c c') :
    ∀ x, holds db value x c = true → holds db' value x c' = true := by
  induction h with
  | role h =>
    intro x hx
    simp only [Clause.holds, List.any_eq_true, actorMatches_of_included h] at hx ⊢
    obtain ⟨row, hrow, hmatches⟩ := hx
    exact ⟨row, h.rows row hrow, hmatches⟩
  | globalRole h =>
    intro x hx
    simp only [Clause.holds, List.any_eq_true, actorMatches_of_included h] at hx ⊢
    obtain ⟨row, hrow, hmatches⟩ := hx
    exact ⟨row, h.rows row hrow, hmatches⟩
  | related h hlength _ ih =>
    intro x hx
    simp only [Clause.holds, List.any_eq_true, Bool.and_eq_true, someHolds_iff] at hx ⊢
    obtain ⟨row, hrow, hfirst, c, hc, hholds⟩ := hx
    -- the clause of the other list that stands in the same place
    obtain ⟨c', hc', himplies⟩ := Outcome.exists_of_mem_right (List.forall₂_iff_zip.mpr ⟨hlength, ih _ _⟩).flip hc
    exact ⟨row, h.rows row hrow, hfirst, c', hc', himplies _ hholds⟩
  | hasAttribute h =>
    intro x hx
    simp only [Clause.holds, List.any_eq_true] at hx ⊢
    obtain ⟨row, hrow, hfirst⟩ := hx
    exact ⟨row, h.rows row hrow, hfirst⟩

end Clause

/-- A condition goes on to hold when rows are added to what its queries answer. -/
theorem Condition.holds_of_matches {value : Literal → Value} {db db' : Database} {c c' : Condition}
    (h : List.Forall₂ (Clause.Matches (Subquery.IncludedIn value db db')) c c') {x : Operand}
    (hx : c.holds db value x = true) : Condition.holds db' value x c' = true := by
  obtain ⟨clause, hclause, hholds⟩ := Clause.someHolds_iff.mp hx
  obtain ⟨clause', hclause', hmatches⟩ := Outcome.exists_of_mem_right h.flip hclause
  exact Clause.someHolds_iff.mpr ⟨clause', hclause', hmatches.holds x hholds⟩

end RowGuard
