import RowGuard.Evaluator.Local
import RowGuard.Proofs.Access.Compile

/-!
# The ways of two books and two subjects

Compiling a condition never asks what the rows of a fact query are, nor who the subject is: it looks queries up and
puts them into clauses. If each clause that is made of the queries of one book for one subject is related to the
clause that another book makes for another subject (`Policy.Transfers`), then so is each clause that a policy
compiles to (`LocalEvaluator.condition_of_transfers`), and the ways are the same but for their clauses.
-/

namespace RowGuard

open Outcome

/-- Computations on the items of a list whose values are related. -/
theorem exists_mapM_related {ε α β γ : Type} {R : β → γ → Prop} {f : α → Except ε β} {g : α → Except ε γ}
    {items : List α} {bs : List β} (hitems : ∀ a ∈ items, ∀ b, f a = .ok b → ∃ c, g a = .ok c ∧ R b c)
    (h : items.mapM f = .ok bs) : ∃ cs, items.mapM g = .ok cs ∧ List.Forall₂ R bs cs := by
  have hall := mapM_eq_ok_iff.mp h
  clear h
  induction hall with
  | nil => exact ⟨[], rfl, .nil⟩
  | @cons a b rest bs hab _ ih =>
    obtain ⟨c, hc, hbc⟩ := hitems a List.mem_cons_self b hab
    obtain ⟨cs, hcs, hrest⟩ := ih fun a' ha' => hitems a' (List.mem_cons_of_mem _ ha')
    exact ⟨c :: cs, by rw [List.mapM_cons, hc, ok_bind, hcs]; rfl, .cons hbc hrest⟩

/-- What is made of such values has a property that it has for all related ones. -/
theorem exists_mapM_bind {ε α β γ δ : Type} {R : β → γ → Prop} {Q : δ → Prop} {f : α → Except ε β}
    {g : α → Except ε γ} {k : List γ → Except ε δ} {items : List α} {bs : List β}
    (hitems : ∀ a ∈ items, ∀ b, f a = .ok b → ∃ c, g a = .ok c ∧ R b c) (h : items.mapM f = .ok bs)
    (hk : ∀ cs, List.Forall₂ R bs cs → ∃ out, k cs = .ok out ∧ Q out) :
    ∃ out, (items.mapM g >>= k) = .ok out ∧ Q out := by
  obtain ⟨cs, hcs, hrelated⟩ := exists_mapM_related hitems h
  rw [hcs, ok_bind]
  exact hk cs hrelated

namespace Name

variable {ν : Type} [Name ν]

theorem pairwise_textsInOrder {names : List ν} {texts : List String} (h : textsInOrder names = .ok texts) :
    texts.Pairwise (· ≤ ·) := by
  unfold textsInOrder sortedTexts? at h
  cases htexts : names.mapM text? with
  | none => simp [htexts] at h
  | some ts =>
    obtain rfl : (ts.mergeSort fun a b => decide (a ≤ b)) = texts := by simpa [htexts] using h
    exact pairwise_mergeSort ts

end Name

/-- The ways have one label, and their clauses are related. -/
structure Way.Related (R : Clause → Clause → Prop) (w w' : Way) : Prop where
  label : w'.label = w.label
  clause : R w.clause w'.clause

theorem Condition.forall₂_ofWays {R : Clause → Clause → Prop} {ways ways' : List Way}
    (h : List.Forall₂ (Way.Related R) ways ways') : List.Forall₂ R (ofWays ways) (ofWays ways') := by
  rw [ofWays, ofWays, List.forall₂_map_left_iff, List.forall₂_map_right_iff]
  exact h.imp fun _ _ hw => hw.clause

namespace Policy

variable {ν : Type} {p : Policy ν} {facts facts' : FactBook} {s s' : Subject} {R : Clause → Clause → Prop}
  {ways : List Way}

/-- Where a clause can be made of the first book's queries for the first subject, one can be made of the second
book's for the second subject, and it is related to the first one. Roles come in order. -/
structure Transfers (p : Policy ν) (facts facts' : FactBook) (s s' : Subject) (R : Clause → Clause → Prop) :
    Prop where
  role : ∀ {type fact l}, facts.role p.actorType type = .ok fact → p.subjectLiteral facts s = .ok l →
    ∃ fact' l', facts'.role p.actorType type = .ok fact' ∧ p.subjectLiteral facts' s' = .ok l' ∧
      ∀ {roles : List String}, roles.Pairwise (· ≤ ·) → R (.role fact l roles) (.role fact' l' roles)
  globalRole : ∀ {fact l}, facts.globalRole p.actorType = .ok fact → p.subjectLiteral facts s = .ok l →
    ∃ fact' l', facts'.globalRole p.actorType = .ok fact' ∧ p.subjectLiteral facts' s' = .ok l' ∧
      ∀ {roles : List String}, roles.Pairwise (· ≤ ·) → R (.globalRole fact l roles) (.globalRole fact' l' roles)
  relation : ∀ {type relation other fact}, facts.relation type relation other = .ok fact →
    ∃ fact', facts'.relation type relation other = .ok fact' ∧
      ∀ {inner inner'}, List.Forall₂ R inner inner' → R (.related fact inner) (.related fact' inner')
  attr : ∀ {name type fact}, facts.attr name type = .ok fact →
    ∃ fact', facts'.attr name type = .ok fact' ∧ R (.hasAttribute fact) (.hasAttribute fact')

section Steps

variable [Name ν] (htransfers : p.Transfers facts facts' s s' R)

include htransfers

theorem Transfers.exists_globalWays {roles : List ν} (h : p.globalWays facts s roles = .ok ways) :
    ∃ ways', p.globalWays facts' s' roles = .ok ways' ∧ List.Forall₂ (Way.Related R) ways ways' := by
  unfold globalWays globalWay at *
  split at h
  case isTrue hempty =>
    obtain rfl := Except.ok.inj h
    exact ⟨[], if_pos hempty, .nil⟩
  case isFalse hempty =>
    obtain ⟨texts, htexts, h⟩ := bind_eq_ok_iff.mp h
    obtain ⟨w, hw, h⟩ := bind_eq_ok_iff.mp h
    obtain ⟨fact, hfact, hw⟩ := bind_eq_ok_iff.mp hw
    obtain ⟨l, hl, hw⟩ := bind_eq_ok_iff.mp hw
    obtain rfl := Except.ok.inj hw
    obtain rfl := Except.ok.inj h
    obtain ⟨fact', l', hfact', hl', hrelated⟩ := htransfers.globalRole hfact hl
    refine ⟨[⟨"global role " ++ listed texts, .globalRole fact' l' texts⟩], ?_, ?_⟩
    · rw [if_neg hempty, htexts, ok_bind, hfact', ok_bind, hl']
      rfl
    · exact .cons ⟨rfl, hrelated (Name.pairwise_textsInOrder htexts)⟩ .nil

theorem Transfers.exists_localWays {type : ν} {roles : List ν} (h : p.localWays facts s type roles = .ok ways) :
    ∃ ways', p.localWays facts' s' type roles = .ok ways' ∧ List.Forall₂ (Way.Related R) ways ways' := by
  unfold localWays at *
  split at h
  case isTrue hempty =>
    obtain rfl := Except.ok.inj h
    exact ⟨[], if_pos hempty, .nil⟩
  case isFalse hempty =>
    rw [if_neg hempty]
    split at h
    case isTrue hglobal =>
      rw [if_pos hglobal]
      exact htransfers.exists_globalWays h
    case isFalse hglobal =>
      obtain ⟨texts, htexts, h⟩ := bind_eq_ok_iff.mp h
      obtain ⟨fact, hfact, h⟩ := bind_eq_ok_iff.mp h
      obtain ⟨l, hl, h⟩ := bind_eq_ok_iff.mp h
      obtain rfl := Except.ok.inj h
      obtain ⟨fact', l', hfact', hl', hrelated⟩ := htransfers.role hfact hl
      refine ⟨[⟨"role " ++ listed texts ++ " on " ++ Name.plain type, .role fact' l' texts⟩], ?_, ?_⟩
      · rw [if_neg hglobal, htexts, ok_bind, hfact', ok_bind, hl']
        rfl
      · exact .cons ⟨rfl, hrelated (Name.pairwise_textsInOrder htexts)⟩ .nil

theorem Transfers.exists_attributeWays {type : ν} {attributes : List ν}
    (h : attributes.mapM (attributeWay facts type) = .ok ways) :
    ∃ ways', attributes.mapM (attributeWay facts' type) = .ok ways' ∧ List.Forall₂ (Way.Related R) ways ways' := by
  refine exists_mapM_related ?_ h
  intro a _ w hw
  obtain ⟨fact, hfact, hw⟩ := bind_eq_ok_iff.mp hw
  obtain rfl := Except.ok.inj hw
  obtain ⟨fact', hfact', hrelated⟩ := htransfers.attr hfact
  exact ⟨⟨"is_" ++ Name.plain a, .hasAttribute fact'⟩, by rw [attributeWay, hfact', ok_bind]; rfl, rfl, hrelated⟩

end Steps

omit facts facts' in
theorem exists_relatedWays_of_related [Name ν] {roles : List ν} {relation : ν} {fact fact' : Subquery} {inner inner' : List Way}
    (hfact : ∀ {cs cs'}, List.Forall₂ R cs cs' → R (.related fact cs) (.related fact' cs'))
    (hinner : List.Forall₂ (Way.Related R) inner inner') (h : relatedWays roles relation fact inner = .ok ways) :
    ∃ ways', relatedWays roles relation fact' inner' = .ok ways' ∧ List.Forall₂ (Way.Related R) ways ways' := by
  have hempty' : inner'.isEmpty = inner.isEmpty := by
    cases hinner <;> rfl
  unfold relatedWays at *
  rw [hempty']
  split at h
  case isTrue hempty =>
    obtain rfl := Except.ok.inj h
    exact ⟨[], if_pos hempty, .nil⟩
  case isFalse hempty =>
    obtain ⟨texts, htexts, h⟩ := bind_eq_ok_iff.mp h
    obtain rfl := Except.ok.inj h
    refine ⟨[⟨"role " ++ listed texts ++ " on " ++ Name.plain relation,
      .related fact' (Condition.ofWays inner')⟩], ?_, .cons ⟨rfl, hfact (Condition.forall₂_ofWays hinner)⟩ .nil⟩
    rw [if_neg hempty, htexts, ok_bind]
    rfl

/-- Every way that is found has its counterpart. -/
theorem Transfers.exists_waysTo [BEq ν] [ReflBEq ν] [Name ν] (htransfers : p.Transfers facts facts' s s' R)
    {start goal : Goal ν} {path : List (Goal ν)} {hgoal : goal ∈ p.goals start}
    (h : p.waysTo facts s start path goal hgoal = .ok ways) :
    ∃ ways', p.waysTo facts' s' start path goal hgoal = .ok ways' ∧ List.Forall₂ (Way.Related R) ways ways' := by
  -- as the recursion goes: by the number of goals that are not on the path
  induction hsize : (p.unvisited start path).length using Nat.strongRecOn generalizing path goal ways with
  | ind size ih =>
    rw [waysTo] at h ⊢
    split at h
    case isTrue hpath =>
      obtain rfl := Except.ok.inj h
      exact ⟨[], by rw [dif_pos hpath], .nil⟩
    case isFalse hpath =>
      rw [dif_neg hpath]
      split at h
      case h_1 => cases h
      case h_2 block hblock =>
        obtain ⟨d, hd, h⟩ := bind_eq_ok_iff.mp h
        obtain ⟨locals, hlocals, h⟩ := bind_eq_ok_iff.mp h
        obtain ⟨globals, hglobals, h⟩ := bind_eq_ok_iff.mp h
        obtain ⟨rels, hrels, h⟩ := bind_eq_ok_iff.mp h
        obtain ⟨related, hrelated, h⟩ := bind_eq_ok_iff.mp h
        obtain ⟨attributes, hattributes, h⟩ := bind_eq_ok_iff.mp h
        obtain ⟨attributeWays, hways, h⟩ := bind_eq_ok_iff.mp h
        obtain rfl := Except.ok.inj h
        have hsmaller : (p.unvisited start (goal :: path)).length < size :=
          hsize ▸ length_unvisited_lt hgoal (by simpa using hpath)
        obtain ⟨locals', hlocals', hlocalWays⟩ := htransfers.exists_localWays hlocals
        obtain ⟨globals', hglobals', hglobalWays⟩ := htransfers.exists_globalWays hglobals
        obtain ⟨attributeWays', hways', hattributeWays⟩ := htransfers.exists_attributeWays hways
        rw [hd, ok_bind, hlocals', ok_bind, hglobals', ok_bind, hrels, ok_bind]
        refine exists_mapM_bind (R := List.Forall₂ (Way.Related R)) ?_ hrelated ?_
        · rintro ⟨relation, roles⟩ - found hfound
          dsimp only at hfound ⊢
          split at hfound
          case h_1 => cases hfound
          case h_2 type hrelation =>
            obtain ⟨fact, hfact, hfound⟩ := bind_eq_ok_iff.mp hfound
            obtain ⟨inner, hinner, hfound⟩ := bind_eq_ok_iff.mp hfound
            obtain ⟨fact', hfact', hclauses⟩ := htransfers.relation hfact
            obtain ⟨inner', hinner', hinnerWays⟩ := ih _ hsmaller hinner rfl
            rw [hfact', ok_bind, hinner', ok_bind]
            exact exists_relatedWays_of_related hclauses hinnerWays hfound
        · intro related' hrelatedWays
          rw [hattributes, ok_bind, hways', ok_bind]
          refine ⟨_, rfl, ?_⟩
          exact List.rel_append (List.rel_append (List.rel_append hlocalWays hglobalWays)
            (List.rel_flatten hrelatedWays)) hattributeWays

end Policy

/-- Every condition has its counterpart. -/
theorem LocalEvaluator.condition_of_transfers {ν : Type} [BEq ν] [ReflBEq ν] [Name ν] {e : LocalEvaluator ν}
    {facts' : FactBook} {s s' : Subject} {R : Clause → Clause → Prop} {config : Config} {action type : Data}
    {c : Condition} (htransfers : e.policy.Transfers e.facts facts' s s' R)
    (h : e.condition config s action type = .ok c) :
    ∃ c', LocalEvaluator.condition { e with facts := facts' } config s' action type = .ok c' ∧
      List.Forall₂ R c c' := by
  unfold condition at *
  obtain ⟨declared, hdeclared, h⟩ := bind_eq_ok_iff.mp h
  have hdeclared' : LocalEvaluator.declared? { e with facts := facts' } action type = .ok declared := hdeclared
  rw [hdeclared', ok_bind]
  split at h
  case h_1 a t =>
    obtain ⟨ways, hways, h⟩ := bind_eq_ok_iff.mp h
    obtain rfl := Except.ok.inj h
    obtain ⟨_, hkeys, hways⟩ := bind_eq_ok_iff.mp hways
    obtain ⟨ways', hways', hrelated⟩ := htransfers.exists_waysTo hways
    refine ⟨_, ?_, Condition.forall₂_ofWays hrelated⟩
    show e.policy.condition facts' s' t [a] = _
    rw [Policy.condition, Policy.ways, hkeys, ok_bind, hways']
    rfl
  case h_2 =>
    split at h
    case h_1 =>
      obtain rfl := Except.ok.inj h
      exact ⟨[], rfl, .nil⟩
    case h_2 => cases h

end RowGuard
