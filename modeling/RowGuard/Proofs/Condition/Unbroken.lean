import RowGuard.Proofs.Condition.Quotation

/-!
# Null characters in a condition's text

A database stops to read a statement at a null character. Where neither the fact queries nor what their filters
compare with have one (`Subquery.Unbroken`), the text of a condition has one exactly if one of its literals has, or
the column that it is about (`Condition.unbroken_render_iff`).
-/

namespace RowGuard

open Outcome

namespace Sql

/-- The text has no null character. -/
def Unbroken (s : String) : Prop := '\x00' ∉ s.toList

instance (s : String) : Decidable (Unbroken s) := inferInstanceAs (Decidable (¬ _))

theorem unbroken_append {s t : String} : Unbroken (s ++ t) ↔ Unbroken s ∧ Unbroken t := by
  simp [Unbroken]

theorem unbroken_intercalate {s : String} {texts : List String} (hs : Unbroken s) :
    Unbroken (s.intercalate texts) ↔ ∀ t ∈ texts, Unbroken t :=
  not_mem_intercalate_iff hs

theorem unbroken_name (d : Dialect) {s : String} (h : Unbroken s) : Unbroken (name d s) :=
  not_mem_name d (by decide) (by decide) h

theorem unbroken_boolLiteral (d : Dialect) (b : Bool) : Unbroken (boolLiteral d b) := by
  cases d <;> cases b <;> decide

end Sql

open Sql

/-- Where the literal has a text, that has no null character. -/
def Literal.Unbroken (d : Dialect) (l : Literal) : Prop := ∀ t, l.render d = .ok t → Sql.Unbroken t

/-- The literal of a text has a null character exactly if the text has one. -/
theorem Literal.unbroken_text_iff {type : ColumnType} (htype : type.sort = .texts) (s : String) :
    Literal.Unbroken .sqlite ⟨.text s, some type⟩ ↔ Sql.Unbroken s := by
  have hrender : Literal.render .sqlite ⟨.text s, some type⟩ = .ok (textLiteral .sqlite s) :=
    Literal.render_text (by rintro t ⟨⟩; exact htype) s
  have hliteral : Literal.Unbroken .sqlite ⟨.text s, some type⟩ ↔ Sql.Unbroken (textLiteral .sqlite s) :=
    ⟨fun h => h _ hrender, fun h t ht => Except.ok.inj (hrender.symm.trans ht) ▸ h⟩
  have hencoded : '\x00' ∈ encodeText s.toList ↔ '\x00' ∈ s.toList := by
    simp only [encodeText, List.mem_flatMap]
    grind
  have hescaped : escapePercent .sqlite (encodeText s.toList) = encodeText s.toList := by
    simp [escapePercent, Dialect.doublesPercent]
  rw [hliteral, textLiteral, hescaped]
  simp +decide [Sql.Unbroken, hencoded]

/-! ## Queries -/

namespace FactQuery

theorem mem_of_mem_withoutParameters {c : Char} {before : Option Char} {cs : List Char}
    (h : c ∈ withoutParameters before cs) : c ∈ cs ∨ c ∈ "NULL".toList := by
  fun_induction withoutParameters before cs with
  | case1 => exact .inl h
  | case2 before c' rest bounded hparameter ih =>
    rcases List.mem_append.mp h with h | h
    · exact .inr h
    · exact (ih h).imp_left fun hmem => List.mem_cons_of_mem _ (List.mem_of_mem_drop hmem)
  | case3 before c' rest bounded hparameter ih =>
    rcases List.mem_cons.mp h with rfl | h
    · exact .inl List.mem_cons_self
    · exact (ih h).imp_left (List.mem_cons_of_mem _)

theorem mem_of_mem_withoutEscapes {c : Char} {cs : List Char} (h : c ∈ withoutEscapes cs) : c ∈ cs := by
  fun_induction withoutEscapes cs with
  | case1 rest after hcolon ih =>
    simp only [List.mem_cons] at h ⊢
    exact h.imp_right (Or.imp_right ih)
  | case2 rest word after hcolon ih =>
    rcases List.mem_cons.mp h with rfl | h
    · simp
    · rcases List.mem_append.mp h with h | h
      · exact List.mem_cons_of_mem _ (List.mem_cons_of_mem _ ((List.takeWhile_sublist _).mem h))
      · exact List.mem_cons_of_mem _ (List.mem_cons_of_mem _ ((List.dropWhile_sublist _).mem (ih h)))
  | case3 c' rest _ ih =>
    rcases List.mem_cons.mp h with rfl | h
    · exact List.mem_cons_self
    · exact List.mem_cons_of_mem _ (ih h)
  | case4 => exact h

end FactQuery

/-- Neither the filter's column nor what it compares with has a null character. -/
def RowFilter.Unbroken : RowFilter → Prop
  | equals col type value => Sql.Unbroken col ∧ ∀ d t, Sql.literal d type value = .ok t → Sql.Unbroken t
  | isTrue col => Sql.Unbroken col

/-- No name in the selection has a null character, and neither has what it compares with. -/
structure Selection.Unbroken (s : Selection) : Prop where
  table : Sql.Unbroken s.table
  columns : ∀ c ∈ s.columns, Sql.Unbroken c.name
  filter : ∀ f, s.filter = some f → f.Unbroken

/-- Nothing that the query gives has a null character. -/
def FactQuery.Unbroken : FactQuery → Prop
  | selection s => s.Unbroken
  | sql text columns => Sql.Unbroken text ∧ ∀ c ∈ columns, Sql.Unbroken c.plain

/-- Nothing that the query gives has a null character, and none of its columns' names has. -/
structure Subquery.Unbroken (q : Subquery) : Prop where
  query : q.query.Unbroken
  columns : ∀ c ∈ q.columns, Sql.Unbroken c.1.plain

variable {d : Dialect}

theorem RowFilter.unbroken_render {f : RowFilter} {table t : String} (h : f.Unbroken) (htable : Sql.Unbroken table)
    (ht : f.render d table = .ok t) : Sql.Unbroken t := by
  have hcolumn : ∀ col, Sql.Unbroken col → Sql.Unbroken (Sql.column d table col) := fun col hcol =>
    unbroken_append.mpr ⟨unbroken_append.mpr ⟨unbroken_name d htable, by decide⟩, unbroken_name d hcol⟩
  cases f with
  | isTrue col =>
    obtain rfl := Except.ok.inj ht
    exact unbroken_append.mpr ⟨unbroken_append.mpr ⟨hcolumn col h, by decide⟩, unbroken_boolLiteral d true⟩
  | equals col type value =>
    obtain ⟨hcol, hvalue⟩ := h
    unfold render at ht
    split at ht
    · next hcase =>
      obtain ⟨rfl, _, _⟩ := RowFilter.equals.inj hcase
      obtain rfl := Except.ok.inj ht
      exact unbroken_append.mpr ⟨hcolumn col hcol, by decide⟩
    · next hcase =>
      obtain ⟨rfl, rfl, rfl⟩ := RowFilter.equals.inj hcase
      obtain ⟨u, hu, ht⟩ := bind_eq_ok_iff.mp ht
      obtain rfl := Except.ok.inj ht
      exact unbroken_append.mpr ⟨unbroken_append.mpr ⟨hcolumn col hcol, by decide⟩, hvalue d u hu⟩
    · next hcase => exact nomatch hcase

theorem Selection.unbroken_render {s : Selection} {before : List Repetition} {t : String} (h : s.Unbroken)
    (ht : s.render d before = .ok t) : Sql.Unbroken t := by
  have hcolumns : ∀ text ∈ (s.columns.zip s.repetitions).map (fun p =>
      p.1.render d s.table ((p.2.map (Repetition.label (before ++ s.repetitions.filterMap id))).getD p.1.name)),
      Sql.Unbroken text := by
    intro text htext
    obtain ⟨⟨c, r⟩, hmem, rfl⟩ := List.mem_map.mp htext
    have hcolumn := h.columns c (List.of_mem_zip hmem).1
    have hlabel : Sql.Unbroken ((r.map (Repetition.label (before ++ s.repetitions.filterMap id))).getD c.name) := by
      cases r with
      | none => exact hcolumn
      | some r =>
        obtain ⟨c', hc', hname⟩ := List.mem_map.mp (column_mem_of_repetitionsFrom (List.of_mem_zip hmem).2)
        exact unbroken_append.mpr ⟨unbroken_append.mpr ⟨hname ▸ h.columns c' hc', by decide⟩,
          not_mem_toString_nat (by decide) _⟩
    have hsource : Sql.Unbroken (Sql.column d s.table c.name) :=
      unbroken_append.mpr ⟨unbroken_append.mpr ⟨unbroken_name d h.table, by decide⟩, unbroken_name d hcolumn⟩
    refine unbroken_append.mpr ⟨unbroken_append.mpr ⟨?_, by decide⟩, unbroken_name d hlabel⟩
    split
    · exact unbroken_append.mpr ⟨unbroken_append.mpr ⟨by decide, hsource⟩, by decide⟩
    · exact hsource
  have hfirst : Sql.Unbroken (if s.distinct then "DISTINCT " else "") := by
    split <;> decide
  have hcomma : Sql.Unbroken ", " := by decide
  unfold render at ht
  dsimp only at ht
  split at ht
  case h_1 =>
    obtain rfl := Except.ok.inj ht
    simp +decide only [unbroken_append, unbroken_intercalate hcomma, hfirst, unbroken_name d h.table, true_and, and_true]
    exact hcolumns
  case h_2 f hf =>
    obtain ⟨u, hu, ht⟩ := bind_eq_ok_iff.mp ht
    obtain rfl := Except.ok.inj ht
    have hfilter := RowFilter.unbroken_render (h.filter f hf) h.table hu
    simp +decide only [unbroken_append, unbroken_intercalate hcomma, hfirst, unbroken_name d h.table, hfilter, true_and,
      and_true]
    exact hcolumns

theorem FactQuery.unbroken_render {q : FactQuery} {before : List FactQuery} {t : String} (h : q.Unbroken)
    (ht : q.render d before = .ok t) : Sql.Unbroken t := by
  cases q with
  | selection s => exact Selection.unbroken_render h ht
  | sql text columns =>
    obtain rfl := Except.ok.inj ht
    have hescaped := not_mem_escapePercent d (c := '\x00') (by decide) h.1
    intro hmem
    rw [String.toList_ofList] at hmem
    rcases mem_of_mem_withoutParameters (mem_of_mem_withoutEscapes hmem) with hmem | hmem
    · exact hescaped hmem
    · exact absurd hmem (by decide)

theorem unbroken_anonymous {before : List FactQuery} : Sql.Unbroken (anonymous before) :=
  unbroken_append.mpr ⟨by decide, not_mem_toString_nat (by decide) _⟩

theorem Subquery.Unbroken.columnRef {q : Subquery} (h : q.Unbroken) {before : List FactQuery} (i : Nat) :
    Sql.Unbroken (q.columnRef d (anonymous before) i) := by
  have hname : Sql.Unbroken (q.nameAt i).plain := by
    unfold nameAt
    cases hc : q.columns[i]? with
    | none => decide
    | some c => exact h.columns c (List.mem_of_getElem? hc)
  exact unbroken_append.mpr ⟨unbroken_append.mpr ⟨unbroken_anonymous, by decide⟩, unbroken_name d hname⟩

/-! ## Clauses -/

variable {target : String} {before : List FactQuery}

theorem unbroken_renderActorTest_iff {fact : Subquery} {subject : Literal} {roles : List String} {text : String}
    (hfact : fact.Unbroken) (h : renderActorTest d (anonymous before) fact subject roles = .ok text) :
    Sql.Unbroken text ↔ ∀ l ∈ subject :: Clause.roleLiterals fact roles, l.Unbroken d := by
  obtain ⟨who, hwho, h⟩ := bind_eq_ok_iff.mp h
  obtain ⟨which, hwhich, h⟩ := bind_eq_ok_iff.mp h
  obtain rfl := Except.ok.inj h
  have hsubject : subject.Unbroken d ↔ Sql.Unbroken who :=
    ⟨fun h => h who hwho, fun h t ht => Except.ok.inj (hwho.symm.trans ht) ▸ h⟩
  have hroles : (∀ l ∈ Clause.roleLiterals fact roles, l.Unbroken d) ↔ ∀ t ∈ which, Sql.Unbroken t := by
    constructor
    · intro h t ht
      obtain ⟨l, hl, hrender⟩ := (mem_of_mapM_eq_ok hwhich t).mp ht
      exact h l hl t hrender
    · intro h l hl t ht
      exact h t ((mem_of_mapM_eq_ok hwhich t).mpr ⟨l, hl, ht⟩)
  have hcomma : Sql.Unbroken ", " := by decide
  rw [List.forall_mem_cons, hsubject, hroles]
  simp +decide [unbroken_append, unbroken_intercalate hcomma, hfact.columnRef]

theorem unbroken_joinAlternatives {texts : List String} :
    Sql.Unbroken (joinAlternatives d texts) ↔ ∀ t ∈ texts, Sql.Unbroken t := by
  unfold joinAlternatives
  cases texts with
  | nil => simpa using unbroken_boolLiteral d false
  | cons t rest =>
    rw [List.isEmpty_cons, if_neg Bool.false_ne_true]
    exact unbroken_intercalate (by decide)

namespace Clause

mutual

/-- The text of a clause has a null character exactly if a literal has one, or its target where it speaks of it. -/
theorem unbroken_render_iff {target : String} {before : List FactQuery} {out : String × List FactQuery} :
    ∀ c : Clause, (∀ q ∈ c.facts, q.Unbroken) → c.render d target before = .ok out →
      (Sql.Unbroken out.1 ↔ (c.mentionsTarget = true → Sql.Unbroken target) ∧ ∀ l ∈ c.literals, l.Unbroken d)
  | .role fact subject roles, hfacts, h => by
    rw [Clause.render] at h
    obtain ⟨query, hquery, h⟩ := bind_eq_ok_iff.mp h
    obtain ⟨test, htest, h⟩ := bind_eq_ok_iff.mp h
    obtain rfl := Except.ok.inj h
    have hfact := hfacts fact List.mem_cons_self
    simp +decide [unbroken_append, hfact.columnRef, FactQuery.unbroken_render hfact.query hquery,
      unbroken_anonymous, unbroken_renderActorTest_iff hfact htest, mentionsTarget, literals]
  | .globalRole fact subject roles, hfacts, h => by
    rw [Clause.render] at h
    obtain ⟨query, hquery, h⟩ := bind_eq_ok_iff.mp h
    obtain ⟨test, htest, h⟩ := bind_eq_ok_iff.mp h
    obtain rfl := Except.ok.inj h
    have hfact := hfacts fact List.mem_cons_self
    simp +decide [unbroken_append, FactQuery.unbroken_render hfact.query hquery,
      unbroken_anonymous, unbroken_renderActorTest_iff hfact htest, mentionsTarget, literals]
  | .related fact inner, hfacts, h => by
    rw [Clause.render] at h
    obtain ⟨query, hquery, h⟩ := bind_eq_ok_iff.mp h
    obtain ⟨⟨texts, last⟩, hinner, h⟩ := bind_eq_ok_iff.mp h
    obtain rfl := Except.ok.inj h
    have hfact := hfacts fact List.mem_cons_self
    have htexts := unbroken_renderEach_iff inner (fun q hq => hfacts q (List.mem_cons_of_mem _ hq)) hinner
    simp +decide [unbroken_append, hfact.columnRef, FactQuery.unbroken_render hfact.query hquery,
      unbroken_anonymous, unbroken_joinAlternatives, htexts, mentionsTarget, literals]
  | .hasAttribute fact, hfacts, h => by
    rw [Clause.render] at h
    obtain ⟨query, hquery, h⟩ := bind_eq_ok_iff.mp h
    obtain rfl := Except.ok.inj h
    have hfact := hfacts fact List.mem_cons_self
    simp +decide [unbroken_append, hfact.columnRef, FactQuery.unbroken_render hfact.query hquery,
      unbroken_anonymous, mentionsTarget, literals]

/-- The texts of clauses have a null character exactly if a literal has one, or their target where one speaks of it. -/
theorem unbroken_renderEach_iff {target : String} {several : Bool} {before : List FactQuery}
    {out : List String × List FactQuery} : ∀ cs : List Clause, (∀ q ∈ factsOfAll cs, q.Unbroken) →
      renderEach d target several before cs = .ok out →
        ((∀ t ∈ out.1, Sql.Unbroken t) ↔
          (cs.any mentionsTarget = true → Sql.Unbroken target) ∧ ∀ l ∈ literalsOfAll cs, l.Unbroken d)
  | [], _, h => by
    obtain rfl := Except.ok.inj h
    simp [literalsOfAll]
  | c :: rest, hfacts, h => by
    rw [renderEach] at h
    obtain ⟨⟨text, after⟩, hfirst, h⟩ := bind_eq_ok_iff.mp h
    obtain ⟨⟨texts, last⟩, hrest, h⟩ := bind_eq_ok_iff.mp h
    obtain rfl := Except.ok.inj h
    have hone := unbroken_render_iff c (fun q hq => hfacts q (List.mem_append_left _ hq)) hfirst
    have hmany := unbroken_renderEach_iff rest (fun q hq => hfacts q (List.mem_append_right _ hq)) hrest
    have henclosed : Sql.Unbroken (if several && c.isExists then "(" ++ text ++ ")" else text) ↔ Sql.Unbroken text := by
      split
      · simp +decide [unbroken_append]
      · rfl
    dsimp only at hone hmany ⊢
    rw [List.forall_mem_cons, henclosed, hone, hmany, literalsOfAll, List.forall_mem_append, List.any_cons,
      Bool.or_eq_true, or_imp]
    exact and_and_and_comm

end

end Clause

/-- The text of a condition has a null character exactly if a literal has one, or the column that it is about where
it speaks of it. -/
theorem Condition.unbroken_render_iff {c : Condition} {text : String} (hfacts : ∀ q ∈ Clause.factsOfAll c, q.Unbroken)
    (h : c.render d target = .ok text) :
    Sql.Unbroken text ↔
      (c.mentionsTarget = true → Sql.Unbroken target) ∧ ∀ l ∈ Clause.literalsOfAll c, l.Unbroken d := by
  obtain ⟨out, heach, h⟩ := bind_eq_ok_iff.mp h
  obtain rfl := Except.ok.inj h
  rw [unbroken_joinAlternatives, Clause.unbroken_renderEach_iff c hfacts heach]
  rfl

end RowGuard
