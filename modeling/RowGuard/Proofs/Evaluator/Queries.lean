import RowGuard.Proofs.Evaluator.Quotation
import RowGuard.Proofs.Evaluator.Testing

/-!
# The queries of a condition

A condition that a policy compiles to asks the queries of the fact book and no others
(`LocalEvaluator.queries_of_condition`), whatever the names in the policy are.
-/

namespace RowGuard

open Outcome

namespace FactBook

/-- Every query of the book. -/
def queries (b : FactBook) : List FactQuery :=
  b.roles.map (·.2) ++ b.globalRoles.toList ++ b.relations.map (·.2) ++ b.attributes.map (·.2)

variable {facts : FactBook} {fact : Subquery}

/-- Clauses that are made of the book's queries ask subqueries with a property that the queries have as such. -/
theorem forms_of_queries {Q : Subquery → Prop} (h : ∀ q ∈ facts.queries, ∀ types, Q (q.toSubquery types)) :
    facts.Forms fun c => ∀ q ∈ c.facts, Q q where
  role {actor type fact} hfact subject roles _ := by
    obtain ⟨q, hfound, hfact⟩ := bind_eq_ok_iff.mp hfact
    obtain ⟨_, _, hchecked⟩ := bind_eq_ok_iff.mp hfact
    obtain ⟨_, hq⟩ := lookup_mem (exists_of_found hfound)
    obtain rfl := checked_eq_ok hchecked
    simpa [Clause.facts] using h q (by simpa [queries] using .inl ⟨_, hq⟩) _
  globalRole {actor fact} hfact subject roles _ := by
    obtain ⟨q, hfound, hfact⟩ := bind_eq_ok_iff.mp hfact
    obtain ⟨_, _, hchecked⟩ := bind_eq_ok_iff.mp hfact
    obtain rfl := checked_eq_ok hchecked
    simpa [Clause.facts] using h q (by simp [queries, exists_of_found hfound]) _
  relation {type relation other fact} hfact inner hinner := by
    obtain ⟨q, hfound, hchecked⟩ := bind_eq_ok_iff.mp hfact
    obtain ⟨_, hq⟩ := lookup_mem (exists_of_found hfound)
    obtain rfl := checked_eq_ok hchecked
    have hmem : q ∈ facts.queries := by
      simp only [queries, List.mem_append, List.mem_map]
      exact .inl (.inr ⟨_, hq, rfl⟩)
    intro q' hq'
    rcases List.mem_cons.mp hq' with rfl | hq'
    · exact h q hmem _
    · obtain ⟨c, hc, hq'⟩ := Clause.mem_factsOfAll.mp hq'
      exact hinner c hc q' hq'
  attr {name type fact} hfact := by
    obtain ⟨q, hfound, hchecked⟩ := bind_eq_ok_iff.mp hfact
    obtain ⟨_, hq⟩ := lookup_mem (exists_of_found hfound)
    obtain rfl := checked_eq_ok hchecked
    have hmem : q ∈ facts.queries := by
      simp only [queries, List.mem_append, List.mem_map]
      exact .inr ⟨_, hq, rfl⟩
    simpa [Clause.facts] using h q hmem _

end FactBook

namespace LocalEvaluator

variable {ν : Type} [BEq ν] [ReflBEq ν] [Name ν] {e : LocalEvaluator ν} {config : Config} {s : Subject}
  {action type : Data} {c : Condition}

/-- What the book's queries have as such, each query of a condition has. -/
theorem forall_of_queries {Q : Subquery → Prop} (hc : e.condition config s action type = .ok c)
    (h : ∀ q ∈ e.facts.queries, ∀ types, Q (q.toSubquery types)) : ∀ q ∈ Clause.factsOfAll c, Q q := by
  intro q hq
  obtain ⟨clause, hclause, hq⟩ := Clause.mem_factsOfAll.mp hq
  exact (condition_of_forms rfl (FactBook.forms_of_queries h) hc).2 clause hclause q hq

theorem queries_of_condition (hc : e.condition config s action type = .ok c) :
    ∀ q ∈ Clause.factsOfAll c, q.query ∈ e.facts.queries := by
  refine forall_of_queries hc fun q hq types => ?_
  cases q <;> exact hq

end LocalEvaluator

end RowGuard
