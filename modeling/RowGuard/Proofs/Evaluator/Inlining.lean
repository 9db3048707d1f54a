import RowGuard.Proofs.Batch.Reach
import RowGuard.Proofs.Condition.Inlining
import RowGuard.Proofs.Evaluator.Quotation
import RowGuard.Proofs.Text.Numeral

/-!
# Identities in compiled conditions

An action compiles to one template for all subjects of a type: the texts differ in the literal of the subject's
identity and in nothing else, in every dialect, for every policy and whatever the queries of its facts are
(`LocalEvaluator.exists_template`). Where the identities of actors are not of a type of texts, that literal is one
token, except for a numeral that is given as a text, which is written as it is (`LocalEvaluator.compiled_tokens`). A
numeral need not be a number that SQL can read: `Tally.nan_is_no_token`.
-/

namespace RowGuard

open Outcome Sql

/-- A property that all clauses have. -/
theorem FactBook.forms_any (facts : FactBook) : facts.Forms fun _ => True :=
  ⟨fun _ _ _ _ => trivial, fun _ _ _ _ => trivial, fun _ _ _ => trivial, fun _ => trivial⟩

namespace LocalEvaluator

variable {ν : Type} [BEq ν] [ReflBEq ν] [Name ν] {e : LocalEvaluator ν} {s : Subject} {sys : System}
  {kind action type columnRef : Data} {text : String}

/-- The text that an action is compiled to for a column, if it is. -/
def compiledText (e : LocalEvaluator ν) (s : Subject) (action type columnRef : Data) (sys : System) :
    Option String :=
  match e.compile s action type columnRef sys with
  | (.ok id, compiled) => (compiled.fragments.get? id).map (·.sql.plain)
  | (.error _, _) => none

theorem compiledText_eq_some_iff :
    e.compiledText s action type columnRef sys = some text ↔
      ∃ c, e.condition (e.configIn sys) s action type = .ok c ∧ c.forColumn e.dialect columnRef = .ok text := by
  constructor
  · intro h
    cases hcompile : e.compile s action type columnRef sys with
    | mk outcome sys' =>
      cases outcome with
      | error f => simp [compiledText, hcompile] at h
      | ok id =>
        obtain ⟨c, sql, hc, hsql, rfl, _, hall⟩ := compile_eq_ok hcompile
        simp only [compiledText, hcompile, Batch.get?_of_push hall] at h
        exact ⟨c, hc, hsql.trans (congrArg Except.ok (Option.some.inj h))⟩
  · rintro ⟨c, hc, hsql⟩
    obtain ⟨sys', hcompile, _, hall⟩ := compile_apply hc hsql
    simp only [compiledText, hcompile, Batch.get?_of_push hall]
    rfl

/-- The texts that an action compiles to for the subjects of one type are one template, with gaps for the subject's
literal. It compiles for every subject whose literal can be written, and for the others only if there is no gap. -/
theorem exists_template (h : e.compiledText ⟨kind, s.id⟩ action type columnRef sys = some text) :
    ∃ t : Template, ∀ id text, e.compiledText ⟨kind, id⟩ action type columnRef sys = some text ↔
      ∃ word, (none ∈ t → Literal.render e.dialect ⟨id, e.facts.idType e.policy.actorType⟩ = .ok word) ∧
        text = t.fill word := by
  obtain ⟨c, hc, hsql⟩ := compiledText_eq_some_iff.mp h
  obtain ⟨t, _, htexts⟩ := Condition.exists_template hsql
  refine ⟨t, ?_⟩
  intro id text
  have htype : (⟨kind, id⟩ : Subject).type = (⟨kind, s.id⟩ : Subject).type := rfl
  have hcondition := (condition_of_forms htype e.facts.forms_any hc).1
  rw [compiledText_eq_some_iff, hcondition, ← htexts]
  constructor
  · rintro ⟨c', hc', htext⟩
    exact (Except.ok.inj hc') ▸ htext
  · exact fun htext => ⟨_, rfl, htext⟩

/-- Where identities are not of a type of texts, compiling for an identity fails or gives a text in which the
identity is one token in each of its places; for another identity the text differs in these tokens only. A numeral
that is given as a text may be an exception where identities are decimal numbers: it stands there as it is, be it a
number that SQL can read or not, with no character but those that numbers are written with. -/
theorem compiled_tokens {t : ColumnType} (htype : e.facts.idType e.policy.actorType = some t)
    (hsort : t.sort ≠ .texts) :
    ∃ template : Template, ∀ id text, id.IsPlain → e.compiledText ⟨kind, id⟩ action type columnRef sys = some text →
      ∃ token, text = template.fill token ∧
        (none ∈ template → isToken token = true ∨
          t = .numeric ∧ id = .text token ∧ Text.isNumeral token = true ∧
            ∀ c ∈ token.toList, Text.isNumeralChar c = true) := by
  by_cases hcompiles : ∃ id text, e.compiledText ⟨kind, id⟩ action type columnRef sys = some text
  · obtain ⟨first, _, hfirst⟩ := hcompiles
    obtain ⟨template, htexts⟩ := exists_template (s := ⟨kind, first⟩) hfirst
    refine ⟨template, ?_⟩
    intro id text hid htext
    obtain ⟨token, hliteral, rfl⟩ := (htexts id text).mp htext
    refine ⟨token, rfl, ?_⟩
    intro hgap
    have hrendered := hliteral hgap
    rw [htype] at hrendered
    rcases hid with ⟨s, rfl⟩ | ⟨n, rfl⟩
    · obtain htoken | ⟨hnumeric, rfl, hnumeral⟩ := isToken_of_text hsort hrendered
      · exact .inl htoken
      · exact .inr ⟨hnumeric, rfl, hnumeral, fun _ => Text.isNumeralChar_of_isNumeral hnumeral⟩
    · exact .inl (isToken_of_int hsort hrendered)
  · exact ⟨[], fun id text _ htext => absurd ⟨id, text, htext⟩ hcompiles⟩

end LocalEvaluator

/-! ### With numbered users -/

namespace Tally

/-- The users are numbered, with numbers of any precision. -/
def facts : FactBook where
  roles := [(.text "Doc", Archive.unremarkable)]
  sqlTypes := [(.text "User", .numeric)]

def evaluator : LocalEvaluator := ⟨Archive.policy, facts, .sqlite, false, none⟩

/-- The text that reading is compiled to for an identity. -/
def readText (id : Data) : Option String :=
  evaluator.compiledText ⟨.text "User", id⟩ (.text "read") (.text "Doc") (.text "d") Archive.system

/-- What the texts for all identities have in common. -/
def readTemplate : Template :=
  [some "d IN (SELECT anon_1.c \nFROM (SELECT a, b, c FROM g) AS anon_1 \nWHERE anon_1.a", none,
    some "anon_1.b IN ('reader'))"]

theorem idType_eq : evaluator.facts.idType evaluator.policy.actorType = some .numeric := by decide +kernel

theorem compiled_tokens_numbered :
    evaluator.facts.idType evaluator.policy.actorType = some .numeric ∧ ColumnType.numeric.sort ≠ .texts ∧
      ∃ template : Template, ∀ id text, id.IsPlain → readText id = some text →
        ∃ token, text = template.fill token ∧
          (none ∈ template → isToken token = true ∨
            ColumnType.numeric = .numeric ∧ id = .text token ∧ Text.isNumeral token = true ∧
              ∀ c ∈ token.toList, Text.isNumeralChar c = true) :=
  ⟨idType_eq, by decide, LocalEvaluator.compiled_tokens idType_eq (by decide)⟩

/-- A user's number is one token in the text, but no number at all is not: it stands there as a name. -/
theorem nan_is_no_token :
    readText (.int 1) = some (readTemplate.fill "1") ∧ isToken "1" = true ∧
      readText (.text "nan") = some (readTemplate.fill "nan") ∧ isToken "nan" = false := by
  decide +kernel

end Tally

end RowGuard
