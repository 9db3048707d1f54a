import RowGuard.Proofs.Condition.Writing
import RowGuard.Proofs.Records.UserConditions

/-!
# Conditions written for users

A condition that compares with the subject can be written only for a subject named by a text. Written out, it says
of a row what the tables allow the subject (`Deed.holds_written_iff`).
-/

namespace RowGuard.Records

variable {db : Database} {s : Subject} {user : String} {c : Condition} {dialect : Dialect} {hasEngine : Bool}
  {config : Option Config} {given : Config}

/-- Whose roles may be edited depends on the subject, so the condition compares with it. -/
theorem actorLiteral_mem_of_editRole (hs : Names s user)
    (hc : (evaluator dialect hasEngine config).condition given s (.text "edit_role") (.text "User") = .ok c) :
    facts.actorLiteral policy s ∈ Clause.literalsOfAll c := by
  obtain rfl := Except.ok.inj (hc.symm.trans (condition_user hs.isActor (by decide)))
  exact mem_literals_userCondition.mpr (.inl rfl)

/-- Who may read documents depends on the subject as well. -/
theorem actorLiteral_mem_of_readDocument
    (hc : (evaluator dialect hasEngine config).condition given s (.text "read") (.text "Document") = .ok c) :
    facts.actorLiteral policy s ∈ Clause.literalsOfAll c := by
  have hreached : documentBlock.Reaches ["read"] "viewer" :=
    .implied (n := "read") (.grant List.mem_cons_self) (by decide)
  exact LocalEvaluator.actorLiteral_mem_literalsOfAll (Deed.readDocument 0).declares hc
    (rfl : policy.block? "Document" = some documentBlock) (by decide) (by decide) hreached

/-- A subject whose condition can be written is named by a text. -/
theorem eq_text_of_forColumn {columnRef : Data} {sql : String} (hs : Names s user)
    (hmem : facts.actorLiteral policy s ∈ Clause.literalsOfAll c)
    (hsql : c.forColumn dialect columnRef = .ok sql) : s = ⟨.text "User", .text user⟩ := by
  obtain ⟨text, htext⟩ := Condition.exists_render_of_forColumn hsql _ hmem
  rw [actorLiteral_eq] at htext
  cases hs with
  | text => rfl
  | int n => cases htext

/-- A user's name as it is written compares as the user's name. -/
theorem reads_written (user : String) : Reads Literal.written ⟨.text "User", .text user⟩ user where
  subject t := by
    rw [actorLiteral_eq]
    exact decide_eq_true_iff
  role role t := decide_eq_true_iff

namespace Deed

variable {d : Deed} {x : Operand}

section Written

variable (hc : (evaluator dialect hasEngine config).condition given ⟨.text "User", .text user⟩ (.text d.action)
  (.text d.type) = .ok c)

include hc

/-- As it is written the condition holds of the resources that the user may do it to. -/
theorem holds_written_iff (h : db.Meets schemas) (hrefs : d.type = "Document" → db.isConsistent = true)
    (hx : d.Targets x) : Condition.holds db Literal.written x c = true ↔ d.Allowed db user := by
  obtain ⟨c', hc', _, hmeaning⟩ := exists_testable dialect hasEngine config (Names.text user) d given
  obtain rfl := Except.ok.inj (hc.symm.trans hc')
  exact (hmeaning _ _ _).trans (holds_iff_allowed h (reads_written user) hrefs hx)

/-- The condition's queries run. -/
theorem runs_of_condition (h : db.Meets schemas) : c.runs db = true := by
  obtain ⟨c', hc', htestable, _⟩ := exists_testable dialect hasEngine config (Names.text user) d given
  obtain rfl := Except.ok.inj (hc.symm.trans hc')
  have hbinds : (facts.actorLiteral policy ⟨.text "User", .text user⟩).Binds := (Names.text user).binds (by simp)
  exact (htestable db ⟨.text "", some .text⟩ (facts_askable h) hbinds ⟨rfl, rfl⟩).runs

end Written

end Deed

end RowGuard.Records
