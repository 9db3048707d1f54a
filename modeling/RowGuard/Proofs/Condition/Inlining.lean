import RowGuard.Proofs.Condition.Quotation
import RowGuard.Proofs.Condition.Writing
import RowGuard.Proofs.Sql.Template

/-!
# The subject in a condition's text

A clause compares the subject with a column of its fact query, and its text says nothing else of the subject: it is
that of any other subject with the one's literal in place of the other's. So the texts of a condition for all
subjects are one template (`Condition.exists_template`), in every dialect and whatever the fact queries are. The
template has a gap exactly if the condition speaks of the subject at all.
-/

namespace RowGuard

open Outcome Sql

variable {d : Dialect} {tableAlias : String}

/-- The test of an actor has one gap, between its two columns. -/
theorem exists_template_of_renderActorTest {fact : Subquery} {subject : Literal} {roles : List String} {test : String}
    (h : renderActorTest d tableAlias fact subject roles = .ok test) :
    ∃ t : Template, none ∈ t ∧
      ∀ l word, l.render d = .ok word → renderActorTest d tableAlias fact l roles = .ok (t.fill word) := by
  obtain ⟨_, _, h⟩ := bind_eq_ok_iff.mp h
  obtain ⟨which, hwhich, _⟩ := bind_eq_ok_iff.mp h
  refine ⟨[some (fact.columnRef d tableAlias 0), none,
    some (fact.columnRef d tableAlias 1 ++ " IN (" ++ ", ".intercalate which ++ ")")], by simp, ?_⟩
  intro l word hword
  rw [renderActorTest, hword, ok_bind, hwhich, ok_bind]
  simp [Template.fill, String.append_assoc]

/-- Alternatives of which one has to hold. -/
def Sql.Template.alternatives (d : Dialect) (ts : List Template) : Template :=
  if ts.isEmpty then [some (boolLiteral d false)] else Template.join " OR " ts

theorem Sql.Template.fill_alternatives (word : String) (ts : List Template) :
    (alternatives d ts).fill word = joinAlternatives d (ts.map (Template.fill word)) := by
  cases ts with
  | nil => simp [alternatives, joinAlternatives, Template.fill]
  | cons t rest => simp [alternatives, joinAlternatives, Template.fill_join]

theorem Sql.Template.none_mem_alternatives {ts : List Template} :
    none ∈ alternatives d ts ↔ ∃ t ∈ ts, none ∈ t := by
  cases ts with
  | nil => simp [alternatives]
  | cons t rest => simp only [alternatives, List.isEmpty_cons, Bool.false_eq_true, if_false, none_mem_join]

namespace Clause

mutual

/-- The texts of a clause for all subjects. -/
theorem exists_template : ∀ (c : Clause) {target text : String} {before after : List FactQuery},
    c.render d target before = .ok (text, after) →
      ∃ t : Template, (none ∈ t ↔ c.literals ≠ []) ∧
        ∀ l word, l.render d = .ok word → (c.withSubject l).render d target before = .ok (t.fill word, after)
  | .role fact subject roles, target, text, before, after, h => by
    rw [Clause.render] at h
    obtain ⟨query, hquery, h⟩ := bind_eq_ok_iff.mp h
    obtain ⟨_, htest, h⟩ := bind_eq_ok_iff.mp h
    obtain rfl := (Prod.mk.inj (Except.ok.inj h)).2
    obtain ⟨t, hgap, hfill⟩ := exists_template_of_renderActorTest htest
    refine ⟨some (target ++ " IN (SELECT " ++ fact.columnRef d (anonymous before) 2 ++ " \nFROM (" ++ query ++
      ") AS " ++ anonymous before ++ " \nWHERE ") :: t ++ [some ")"], by simp [hgap, literals], ?_⟩
    intro l word hword
    rw [withSubject, Clause.render, hquery, ok_bind, hfill l word hword, ok_bind]
    simp [Template.fill, Template.fill_append, String.append_assoc]
  | .globalRole fact subject roles, target, text, before, after, h => by
    rw [Clause.render] at h
    obtain ⟨query, hquery, h⟩ := bind_eq_ok_iff.mp h
    obtain ⟨_, htest, h⟩ := bind_eq_ok_iff.mp h
    obtain rfl := (Prod.mk.inj (Except.ok.inj h)).2
    obtain ⟨t, hgap, hfill⟩ := exists_template_of_renderActorTest htest
    refine ⟨some ("EXISTS (SELECT 1 \nFROM (" ++ query ++ ") AS " ++ anonymous before ++ " \nWHERE ") :: t ++
      [some ")"], by simp [hgap, literals], ?_⟩
    intro l word hword
    rw [withSubject, Clause.render, hquery, ok_bind, hfill l word hword, ok_bind]
    simp [Template.fill, Template.fill_append, String.append_assoc]
  | .related fact inner, target, text, before, after, h => by
    rw [Clause.render] at h
    obtain ⟨query, hquery, h⟩ := bind_eq_ok_iff.mp h
    obtain ⟨⟨texts, last⟩, hinside, h⟩ := bind_eq_ok_iff.mp h
    obtain rfl := (Prod.mk.inj (Except.ok.inj h)).2
    obtain ⟨ts, hgaps, hfill⟩ := exists_templates inner hinside
    refine ⟨some (target ++ " IN (SELECT " ++ fact.columnRef d (anonymous before) 0 ++ " \nFROM (" ++ query ++
      ") AS " ++ anonymous before ++ " \nWHERE ") :: Template.alternatives d ts ++ [some ")"], ?_, ?_⟩
    · simpa [literals, Template.none_mem_alternatives] using hgaps
    · intro l word hword
      rw [withSubject, Clause.render, hquery, ok_bind]
      simp only [length_withSubjectAll, hfill l word hword, ok_bind]
      simp [Template.fill, Template.fill_append, Template.fill_alternatives, String.append_assoc]
  | .hasAttribute fact, target, text, before, after, h => by
    refine ⟨[some text], by simp [literals], ?_⟩
    intro l word _
    simpa [withSubject, Template.fill] using h

/-- The texts of several clauses for all subjects. -/
theorem exists_templates {several : Bool} : ∀ (cs : List Clause) {target : String} {texts : List String}
    {before after : List FactQuery}, renderEach d target several before cs = .ok (texts, after) →
      ∃ ts : List Template, ((∃ t ∈ ts, none ∈ t) ↔ literalsOfAll cs ≠ []) ∧
        ∀ l word, l.render d = .ok word → renderEach d target several before (withSubject.withSubjectAll l cs) =
          .ok (ts.map (Template.fill word), after)
  | [], target, texts, before, after, h => by
    obtain ⟨_, rfl⟩ : [] = texts ∧ before = after := by simpa [renderEach] using h
    exact ⟨[], by simp [literalsOfAll], fun _ _ _ => rfl⟩
  | c :: rest, target, texts, before, after, h => by
    rw [renderEach] at h
    obtain ⟨⟨text, middle⟩, hfirst, h⟩ := bind_eq_ok_iff.mp h
    obtain ⟨⟨others, last⟩, hrest, h⟩ := bind_eq_ok_iff.mp h
    obtain rfl := (Prod.mk.inj (Except.ok.inj h)).2
    obtain ⟨t, hgap, hfill⟩ := exists_template c hfirst
    obtain ⟨ts, hgaps, hfills⟩ := exists_templates rest hrest
    refine ⟨(if several && c.isExists then some "(" :: t ++ [some ")"] else t) :: ts, ?_, ?_⟩
    · have hhead : none ∈ (if several && c.isExists then some "(" :: t ++ [some ")"] else t) ↔ none ∈ t := by
        split <;> simp
      simp only [List.mem_cons, exists_eq_or_imp, hhead, hgap, hgaps, literalsOfAll, ne_eq,
        List.append_eq_nil_iff, not_and_or]
    · intro l word hword
      rw [withSubject.withSubjectAll, renderEach, hfill l word hword, ok_bind]
      simp only [hfills l word hword, ok_bind, isExists_withSubject]
      split <;> simp_all [Template.fill, Template.fill_append, String.append_assoc]

end

mutual

/-- A clause without literals does not speak of the subject. -/
theorem withSubject_of_literals_eq_nil (l : Literal) : ∀ c : Clause, c.literals = [] → c.withSubject l = c
  | .role _ _ _, h | .globalRole _ _ _, h => by simp [literals] at h
  | .related fact inner, h => by rw [withSubject, withSubjectAll_of_literals_eq_nil l inner h]
  | .hasAttribute _, _ => rfl

theorem withSubjectAll_of_literals_eq_nil (l : Literal) :
    ∀ cs : List Clause, literalsOfAll cs = [] → withSubject.withSubjectAll l cs = cs
  | [], _ => rfl
  | c :: rest, h => by
    obtain ⟨hfirst, hrest⟩ := List.append_eq_nil_iff.mp h
    rw [withSubject.withSubjectAll, withSubject_of_literals_eq_nil l c hfirst,
      withSubjectAll_of_literals_eq_nil l rest hrest]

end

mutual

/-- A clause with literals has one for the subject. -/
theorem mem_literals_withSubject_of_ne_nil (l : Literal) :
    ∀ c : Clause, c.literals ≠ [] → l ∈ (c.withSubject l).literals
  | .role _ _ _, _ | .globalRole _ _ _, _ => List.mem_cons_self
  | .related _ inner, h => mem_literals_withSubjectAll_of_ne_nil l inner h
  | .hasAttribute _, h => absurd rfl h

theorem mem_literals_withSubjectAll_of_ne_nil (l : Literal) :
    ∀ cs : List Clause, literalsOfAll cs ≠ [] → l ∈ literalsOfAll (withSubject.withSubjectAll l cs)
  | [], h => absurd rfl h
  | c :: rest, h => by
    rw [withSubject.withSubjectAll, literalsOfAll, List.mem_append]
    by_cases hfirst : c.literals = []
    · exact .inr (mem_literals_withSubjectAll_of_ne_nil l rest fun hrest => h (by simp [literalsOfAll, hfirst, hrest]))
    · exact .inl (mem_literals_withSubject_of_ne_nil l c hfirst)

end

end Clause

namespace Condition

variable {c : Condition} {columnRef : Data} {sql : String}

/-- The texts of a condition for all subjects whose literal can be written. -/
theorem exists_template_of_render (h : c.forColumn d columnRef = .ok sql) :
    ∃ t : Template, (none ∈ t ↔ Clause.literalsOfAll c ≠ []) ∧
      ∀ l word, l.render d = .ok word →
        Condition.forColumn d columnRef (Clause.withSubject.withSubjectAll l c) = .ok (t.fill word) := by
  obtain ⟨href, hnamed, hrender⟩ := forColumn_eq_ok_iff.mp h
  obtain ⟨⟨texts, last⟩, heach, _⟩ := bind_eq_ok_iff.mp hrender
  obtain ⟨ts, hgaps, hfill⟩ := Clause.exists_templates c heach
  refine ⟨Template.alternatives d ts, Template.none_mem_alternatives.trans hgaps, ?_⟩
  intro l word hword
  have hmentions : Condition.mentionsTarget (Clause.withSubject.withSubjectAll l c) = c.mentionsTarget :=
    Clause.any_mentionsTarget_withSubjectAll _ c
  refine forColumn_eq_ok_iff.mpr ⟨hmentions ▸ href, (Clause.nameFault?_withSubjectAll ..).trans hnamed, ?_⟩
  simp only [Condition.render, Clause.length_withSubjectAll, hfill l word hword, ok_bind, Template.fill_alternatives]
  rfl

/-- The texts of a condition for all subjects are one template. For a subject whose literal cannot be written the
condition has no text, unless it does not speak of the subject. -/
theorem exists_template (h : c.forColumn d columnRef = .ok sql) :
    ∃ t : Template, (none ∈ t ↔ Clause.literalsOfAll c ≠ []) ∧
      ∀ l text, Condition.forColumn d columnRef (Clause.withSubject.withSubjectAll l c) = .ok text ↔
        ∃ word, (none ∈ t → l.render d = .ok word) ∧ text = t.fill word := by
  obtain ⟨t, hgap, hfill⟩ := exists_template_of_render h
  refine ⟨t, hgap, ?_⟩
  intro l text
  by_cases hliterals : Clause.literalsOfAll c = []
  · have hclosed : none ∉ t := fun hmem => hgap.mp hmem hliterals
    -- any subject at all will do: the text is the same
    have htext := hfill ⟨.text "", none⟩ _ rfl
    rw [Clause.withSubjectAll_of_literals_eq_nil _ c hliterals] at htext ⊢
    rw [htext, Except.ok.injEq]
    constructor
    · rintro rfl
      exact ⟨_, fun hmem => absurd hmem hclosed, rfl⟩
    · rintro ⟨word, _, rfl⟩
      exact Template.fill_of_closed hclosed _ _
  · constructor
    · intro htext
      obtain ⟨word, hword⟩ := exists_render_of_forColumn htext l
        (Clause.mem_literals_withSubjectAll_of_ne_nil l c hliterals)
      exact ⟨word, fun _ => hword, Except.ok.inj (htext.symm.trans (hfill l word hword))⟩
    · rintro ⟨word, hword, rfl⟩
      exact hfill l word (hword (hgap.mpr hliterals))

end Condition

end RowGuard
