import RowGuard.Condition.Meaning
import RowGuard.Proofs.Outcome

/-!
# Literals of a condition's text

A condition has a text only if every literal in it has one (`Condition.exists_render_of_forColumn`): one subject
whose identity cannot be written makes the whole condition fail to compile.
-/

namespace RowGuard

variable {d : Dialect}

/-- The test of an actor writes the subject and all roles. -/
theorem exists_render_of_renderActorTest {tableAlias text : String} {fact : Subquery} {subject : Literal}
    {roles : List String} (h : renderActorTest d tableAlias fact subject roles = .ok text) :
    ∀ l ∈ subject :: Clause.roleLiterals fact roles, ∃ t, l.render d = .ok t := by
  obtain ⟨who, hwho, h⟩ := Outcome.bind_eq_ok_iff.mp h
  obtain ⟨which, hwhich, _⟩ := Outcome.bind_eq_ok_iff.mp h
  intro l hl
  rcases List.mem_cons.mp hl with rfl | hl
  · exact ⟨who, hwho⟩
  · obtain ⟨t, _, ht⟩ := Outcome.exists_of_mem_right (Outcome.mapM_eq_ok_iff.mp hwhich).flip hl
    exact ⟨t, ht⟩

namespace Clause

mutual

theorem exists_render_of_mem {target : String} {before : List FactQuery} {out : String × List FactQuery} :
    ∀ c : Clause, c.render d target before = .ok out → ∀ l ∈ c.literals, ∃ t, l.render d = .ok t
  | .role fact subject roles, h => by
    rw [Clause.render] at h
    obtain ⟨_, _, h⟩ := Outcome.bind_eq_ok_iff.mp h
    obtain ⟨_, htest, _⟩ := Outcome.bind_eq_ok_iff.mp h
    exact exists_render_of_renderActorTest htest
  | .globalRole fact subject roles, h => by
    rw [Clause.render] at h
    obtain ⟨_, _, h⟩ := Outcome.bind_eq_ok_iff.mp h
    obtain ⟨_, htest, _⟩ := Outcome.bind_eq_ok_iff.mp h
    exact exists_render_of_renderActorTest htest
  | .related fact inner, h => by
    rw [Clause.render] at h
    obtain ⟨_, _, h⟩ := Outcome.bind_eq_ok_iff.mp h
    obtain ⟨_, hinner, _⟩ := Outcome.bind_eq_ok_iff.mp h
    exact exists_render_of_mem_literalsOfAll inner hinner
  | .hasAttribute fact, _ => fun l hl => absurd hl List.not_mem_nil

theorem exists_render_of_mem_literalsOfAll {target : String} {several : Bool} {before : List FactQuery}
    {out : List String × List FactQuery} : ∀ cs : List Clause, renderEach d target several before cs = .ok out →
      ∀ l ∈ literalsOfAll cs, ∃ t, l.render d = .ok t
  | [], _ => fun l hl => absurd hl List.not_mem_nil
  | c :: rest, h => by
    rw [renderEach] at h
    obtain ⟨_, hfirst, h⟩ := Outcome.bind_eq_ok_iff.mp h
    obtain ⟨_, hrest, _⟩ := Outcome.bind_eq_ok_iff.mp h
    intro l hl
    rcases List.mem_append.mp hl with hl | hl
    · exact exists_render_of_mem c hfirst l hl
    · exact exists_render_of_mem_literalsOfAll rest hrest l hl

end

end Clause

namespace Condition

variable {columnRef : Data} {c : Condition} {sql : String}

/-- A condition has a text on a column exactly if the column can be written, where the condition speaks of it, and
the names of its queries' columns are texts: then it is what is rendered with the column as it stands. -/
theorem forColumn_eq_ok_iff : c.forColumn d columnRef = .ok sql ↔
    (c.mentionsTarget = true → Sql.refFault? d columnRef = none) ∧ Clause.nameFault?.ofAll c = none ∧
      c.render d (Sql.verbatim d columnRef.plain) = .ok sql := by
  have href : (if c.mentionsTarget = true then Sql.refFault? d columnRef else none) = none ↔
      (c.mentionsTarget = true → Sql.refFault? d columnRef = none) := by
    cases c.mentionsTarget <;> simp
  unfold forColumn
  rw [← href, ← and_assoc, ← Option.or_eq_none_iff]
  split
  case h_1 hfault => simp [hfault]
  case h_2 hnone =>
    rw [and_iff_right hnone, Outcome.mapError_eq_ok_iff]

/-- Where a condition has a text, each literal of its clauses has one. -/
theorem exists_render_of_forColumn (h : c.forColumn d columnRef = .ok sql) :
    ∀ l ∈ Clause.literalsOfAll c, ∃ t, l.render d = .ok t := by
  obtain ⟨_, _, hrender⟩ := forColumn_eq_ok_iff.mp h
  obtain ⟨_, heach, _⟩ := Outcome.bind_eq_ok_iff.mp hrender
  exact Clause.exists_render_of_mem_literalsOfAll c heach

end Condition

end RowGuard
