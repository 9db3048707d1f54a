import RowGuard.Proofs.Access.Basic
import RowGuard.Proofs.Outcome

/-!
# Compiling is exact

A compiled condition holds of a resource exactly when there is a trail from its goal that repeats none
(`holds_waysTo_iff_exists_trail`), and compiling gives a condition as soon as the facts it asks for are
there (`exists_waysTo_eq_ok`).
-/

namespace RowGuard

open Outcome

namespace Name

theorem requireKeys_string (names : List String) : requireKeys names = .ok () := by
  simp [requireKeys]

/-- Texts have an order, whatever texts they are. -/
theorem inOrder_string (names : List String) :
    inOrder names = .ok (names.mergeSort fun a b => decide (a ≤ b)) := by
  have hall : Data.allComparable (names.map toData) = true := by
    induction names with
    | nil => rfl
    | cons name rest ih =>
      simp only [List.map_cons, Data.allComparable, ih, Bool.and_true, List.all_eq_true,
        List.mem_map]
      rintro _ ⟨other, _, rfl⟩
      rfl
  have hle : (atMost : String → String → Bool) = fun a b => decide (a ≤ b) := by
    ext a b
    rw [atMost_string]
  simp [inOrder, sorted?, hall, hle]

theorem textsInOrder_string (names : List String) :
    textsInOrder names = .ok (names.mergeSort fun a b => decide (a ≤ b)) := by
  have hall : names.mapM text? = some names := by
    induction names with
    | nil => rfl
    | cons name rest ih => simp [ih]
  simp [textsInOrder, sortedTexts?, hall]

/-- Sorted texts ascend. -/
theorem pairwise_mergeSort (names : List String) :
    (names.mergeSort fun a b => decide (a ≤ b)).Pairwise (· ≤ ·) := by
  have hpairwise := @List.pairwise_mergeSort String (fun a b => decide (a ≤ b))
    (fun a b c hab hbc => decide_eq_true ((of_decide_eq_true hab).trans (of_decide_eq_true hbc)))
    (fun a b => by simpa using le_total a b) names
  exact hpairwise.imp of_decide_eq_true

theorem exists_inOrder_string (names : List String) :
    ∃ sorted, inOrder names = .ok sorted ∧ ∀ n, n ∈ sorted ↔ n ∈ names :=
  ⟨_, inOrder_string names, fun _ => List.mem_mergeSort⟩

theorem mem_inOrder_iff {names sorted : List String} (h : inOrder names = .ok sorted) {n : String} :
    n ∈ sorted ↔ n ∈ names := by
  rw [inOrder_string] at h
  rw [← Except.ok.inj h, List.mem_mergeSort]

theorem exists_textsInOrder_string (names : List String) :
    ∃ texts, textsInOrder names = .ok texts ∧ ∀ n, n ∈ texts ↔ n ∈ names :=
  ⟨_, textsInOrder_string names, fun _ => List.mem_mergeSort⟩

end Name

/-! ## What a clause asks for -/

section Clauses

variable {db : Database} {value : Literal → Value} {x : Operand}

theorem Condition.holds_ofWays_iff {ways : List Way} :
    Condition.holds db value x (Condition.ofWays ways) = true ↔
      ∃ w ∈ ways, Clause.holds db value x w.clause = true := by
  show Clause.someHolds db value x (ways.map (·.clause)) = true ↔ _
  induction ways with
  | nil => simp [Clause.someHolds]
  | cons w rest ih => simp [Clause.someHolds, ih]

theorem Clause.actorMatches_iff {p : Policy} {facts : FactBook} {s : Subject} {fact : Subquery}
    {roles : List String} {row : List Operand} :
    actorMatches value fact (facts.actorLiteral p s) roles row = true ↔
      ∃ n ∈ roles, facts.NamesActor p s value fact n row := by
  simp only [actorMatches, roleLiterals, FactBook.NamesActor, Bool.and_eq_true, List.any_map,
    List.any_eq_true, Function.comp_apply]
  constructor
  · rintro ⟨hactor, n, hn, hrole⟩
    exact ⟨n, hn, hactor, hrole⟩
  · rintro ⟨n, hn, hactor, hrole⟩
    exact ⟨hactor, n, hn, hrole⟩

end Clauses

namespace Policy

variable {p : Policy} {facts : FactBook} {s : Subject}

theorem derivation_string (b : Block) (grants : List String) :
    derivation b grants = .ok (b.derive grants) := by
  simp [derivation, Name.requireKeys_string, pure, Except.pure]

theorem subjectLiteral_eq_ok_iff {l : Literal} :
    p.subjectLiteral facts s = .ok l ↔ p.isActor s = true ∧ l = facts.actorLiteral p s := by
  unfold subjectLiteral FactBook.actorLiteral
  cases p.isActor s <;> simp [eq_comm]

/-- One role on the resource itself is one way. -/
theorem localWays_of_role {type role : String} {fact : Subquery} (hactor : p.isActor s = true)
    (htype : type ≠ globalType) (hfact : facts.role p.actorType (.text type) = .ok fact) :
    p.localWays facts s type [role] = .ok [⟨"role " ++ listed [role] ++ " on " ++ type,
      .role fact (facts.actorLiteral p s) [role]⟩] := by
  have hsubject : p.subjectLiteral facts s = .ok (facts.actorLiteral p s) :=
    subjectLiteral_eq_ok_iff.mpr ⟨hactor, rfl⟩
  have htexts : Name.textsInOrder [role] = .ok [role] := by
    simp [Name.textsInOrder, Name.sortedTexts?, Name.text?, Name.toData, Data.text?]
  have htype' : ¬ Name.isText type globalType = true := by simpa using htype
  unfold localWays
  rw [if_neg (by simp), if_neg htype', htexts, ok_bind]
  show (do
    let fact ← facts.role p.actorType (.text type)
    let subject ← p.subjectLiteral facts s
    return [⟨_, Clause.role fact subject [role]⟩] : Except Fault (List Way)) = _
  rw [hfact, ok_bind, hsubject]
  rfl

section Meaning

variable {db : Database} {value : Literal → Value} {x : Operand} {ways : List Way}

theorem holds_globalWays_iff {roles : List String} (h : p.globalWays facts s roles = .ok ways) :
    (∃ w ∈ ways, Clause.holds db value x w.clause = true) ↔
      ∃ n ∈ roles, (facts.evidence p s db value).hasGlobalRole n := by
  unfold globalWays globalWay at h
  split at h
  case isTrue hroles =>
    obtain rfl : [] = ways := by simpa using h
    simp [List.isEmpty_iff.mp hroles]
  case isFalse =>
    obtain ⟨texts, htexts, hmem⟩ := Name.exists_textsInOrder_string roles
    simp only [htexts, ok_bind, bind_eq_ok_iff, subjectLiteral_eq_ok_iff, pure_eq_ok,
      Except.ok.injEq] at h
    obtain ⟨_, ⟨fact, hfact, _, ⟨_, rfl⟩, rfl⟩, rfl⟩ := h
    simp only [List.mem_singleton, exists_eq_left, Clause.holds, List.any_eq_true,
      Clause.actorMatches_iff, FactBook.evidence, hfact, Except.ok.injEq, hmem, exists_eq_left']
    constructor
    · rintro ⟨row, hrow, n, hn, hactor⟩
      exact ⟨n, hn, row, hrow, hactor⟩
    · rintro ⟨n, hn, row, hrow, hactor⟩
      exact ⟨row, hrow, n, hn, hactor⟩

theorem holds_localWays_iff {type : String} {roles : List String}
    (h : p.localWays facts s type roles = .ok ways) :
    (∃ w ∈ ways, Clause.holds db value x w.clause = true) ↔
      ∃ n ∈ roles, (facts.evidence p s db value).hasRoleOn type n x := by
  unfold localWays at h
  split at h
  case isTrue hroles =>
    obtain rfl : [] = ways := by simpa using h
    simp [List.isEmpty_iff.mp hroles]
  case isFalse =>
    simp only [Name.isText_string, decide_eq_true_eq] at h
    by_cases htype : type = globalType
    · rw [if_pos htype] at h
      simp only [holds_globalWays_iff h, Evidence.hasRoleOn, if_pos htype]
    · rw [if_neg htype] at h
      obtain ⟨texts, htexts, hmem⟩ := Name.exists_textsInOrder_string roles
      simp only [htexts, ok_bind, bind_eq_ok_iff, subjectLiteral_eq_ok_iff, pure_eq_ok,
        Except.ok.injEq] at h
      obtain ⟨fact, hfact, _, ⟨_, rfl⟩, rfl⟩ := h
      replace hfact : facts.role p.actorType (.text type) = .ok fact := hfact
      simp only [List.mem_singleton, exists_eq_left, Clause.holds, List.any_eq_true,
        Bool.and_eq_true, Clause.actorMatches_iff, Evidence.hasRoleOn, if_neg htype,
        FactBook.evidence, hfact, Except.ok.injEq, hmem, exists_eq_left']
      constructor
      · rintro ⟨row, hrow, ⟨n, hn, hactor⟩, hx⟩
        exact ⟨n, hn, row, hrow, hactor, hx⟩
      · rintro ⟨n, hn, row, hrow, hactor, hx⟩
        exact ⟨row, hrow, ⟨n, hn, hactor⟩, hx⟩

theorem holds_attributeWays_iff {type : String} {attributes : List String}
    (h : attributes.mapM (attributeWay facts type) = .ok ways) :
    (∃ w ∈ ways, Clause.holds db value x w.clause = true) ↔
      ∃ a ∈ attributes, (facts.evidence p s db value).hasAttribute a type x := by
  simp only [mem_of_mapM_eq_ok h, attributeWay, bind_eq_ok_iff, pure_eq_ok, Except.ok.injEq]
  constructor
  · rintro ⟨_, ⟨a, ha, fact, hfact, rfl⟩, hholds⟩
    exact ⟨a, ha, fact, hfact, by simpa [Clause.holds] using hholds⟩
  · rintro ⟨a, ha, fact, hfact, hrow⟩
    exact ⟨_, ⟨a, ha, fact, hfact, rfl⟩, by simpa [Clause.holds] using hrow⟩

/-- A relation gives one way, unless nothing meets the condition of the resource that it leads to. -/
theorem exists_relatedWays (roles : List String) (relation : String) (fact : Subquery) (inner : List Way) :
    ∃ label, relatedWays roles relation fact inner =
      .ok (if inner.isEmpty then [] else [⟨label, .related fact (Condition.ofWays inner)⟩]) := by
  unfold relatedWays
  cases inner.isEmpty with
  | true => exact ⟨"", rfl⟩
  | false =>
    rw [Name.textsInOrder_string]
    exact ⟨_, rfl⟩

theorem relatedWays_eq_ok {roles : List String} {relation : String} {fact : Subquery} {inner : List Way}
    (h : relatedWays roles relation fact inner = .ok ways) :
    ∃ label, ways = if inner.isEmpty then [] else [⟨label, .related fact (Condition.ofWays inner)⟩] := by
  obtain ⟨label, hways⟩ := exists_relatedWays roles relation fact inner
  exact ⟨label, Except.ok.inj (h.symm.trans hways)⟩

/-- A relation's way holds where a related resource meets one of the inner ways. -/
theorem holds_relatedWays_iff {roles : List String} {relation : String} {fact : Subquery}
    {inner : List Way} (h : relatedWays roles relation fact inner = .ok ways) :
    (∃ w ∈ ways, Clause.holds db value x w.clause = true) ↔
      ∃ row ∈ fact.rows db, x.eq (operandAt row 0) = true ∧
        ∃ w ∈ inner, Clause.holds db value (operandAt row 1) w.clause = true := by
  obtain ⟨label, rfl⟩ := relatedWays_eq_ok h
  split
  case isTrue hinner => simp [List.isEmpty_iff.mp hinner]
  case isFalse =>
    simp only [List.mem_singleton, exists_eq_left, Clause.holds, List.any_eq_true,
      Bool.and_eq_true]
    refine exists_congr ?_
    intro row
    refine and_congr_right ?_
    intro _
    refine and_congr_right ?_
    intro _
    exact Condition.holds_ofWays_iff

end Meaning

/-! ## One level of compiling -/

theorem exists_relatedInOrder (b : Block) (grants : List String) :
    ∃ rels, relatedInOrder (b.derive grants) = .ok rels ∧
      ∀ r, r ∈ rels ↔
        r.1 ∈ (b.derive grants).related.map (·.1) ∧ r.2 = b.requiredOn grants r.1 := by
  obtain ⟨sorted, hsorted, hmem⟩ := Name.exists_inOrder_string ((b.derive grants).related.map (·.1))
  refine ⟨_, by rw [relatedInOrder, hsorted, ok_bind]; rfl, ?_⟩
  intro r
  rw [List.mem_map, ← hmem]
  constructor
  · rintro ⟨relation, hrelation, rfl⟩
    exact ⟨hrelation, rfl⟩
  · rintro ⟨hrelation, hroles⟩
    exact ⟨r.1, hrelation, Prod.ext rfl hroles.symm⟩

theorem mem_relatedInOrder_iff {b : Block} {grants : List String} {rels : List (String × List String)}
    (h : relatedInOrder (b.derive grants) = .ok rels) {r : String × List String} :
    r ∈ rels ↔ r.1 ∈ (b.derive grants).related.map (·.1) ∧ r.2 = b.requiredOn grants r.1 := by
  obtain ⟨rels', hrels', hmem⟩ := exists_relatedInOrder b grants
  obtain rfl := Except.ok.inj (h.symm.trans hrels')
  exact hmem r

variable {start goal : Goal} {path : List Goal} {hgoal : goal ∈ p.goals start}

/-- The ways that one relation adds, given the ways of the goal it leads to. -/
def AddsAlong (p : Policy) (facts : FactBook) (s : Subject) (start : Goal) (path : List Goal)
    (goal : Goal) (b : Block) (r : String × List String) (ways : List Way) : Prop :=
  ∃ other fact inner hnext, b.related? r.1 = some other ∧
    facts.relation (.text goal.type) (.text r.1) (.text other) = .ok fact ∧
    p.waysTo facts s start (goal :: path) (p.relatedGoal other r.2) hnext = .ok inner ∧
    relatedWays r.2 r.1 fact inner = .ok ways

theorem waysTo_of_visited (hpath : path.any goal.same = true) :
    p.waysTo facts s start path goal hgoal = .ok [] := by
  rw [waysTo, dif_pos hpath]

theorem waysTo_of_undeclared (hpath : path.any goal.same = false) (hb : p.block? goal.type = none) :
    p.waysTo facts s start path goal hgoal =
      .error (.policy (.undeclaredType (Name.toData goal.type))) := by
  rw [waysTo, dif_neg (by simp [hpath])]
  split
  case h_1 => rfl
  case h_2 block hblock => simp [hb] at hblock

/-- The ways of a new goal, relation by relation. -/
theorem waysTo_eq_ok_iff {ways : List Way} {b : Block} (hpath : path.any goal.same = false)
    (hb : p.block? goal.type = some b) :
    p.waysTo facts s start path goal hgoal = .ok ways ↔
      ∃ locals globals rels related attributes attributeWays,
        p.localWays facts s goal.type (b.derive goal.grants).localRoles = .ok locals ∧
        p.globalWays facts s (b.derive goal.grants).globalRoles = .ok globals ∧
        relatedInOrder (b.derive goal.grants) = .ok rels ∧
        List.Forall₂ (AddsAlong p facts s start path goal b) rels related ∧
        Name.inOrder (b.derive goal.grants).attributes = .ok attributes ∧
        attributes.mapM (attributeWay facts goal.type) = .ok attributeWays ∧
        ways = locals ++ globals ++ related.flatten ++ attributeWays := by
  rw [waysTo, dif_neg (by simp [hpath])]
  split
  case h_1 hnone => simp [hb] at hnone
  case h_2 block hblock =>
    obtain rfl : block = b := Option.some.inj (hblock.symm.trans hb)
    simp only [derivation_string, ok_bind, bind_eq_ok_iff, mapM_eq_ok_iff, pure_eq_ok]
    constructor
    · rintro ⟨locals, hlocals, globals, hglobals, rels, hrels, related, hrelated, attributes,
        hattributes, ways', hways', heq⟩
      refine ⟨locals, globals, rels, related, attributes, ways', hlocals, hglobals, hrels, ?_,
        hattributes, hways', (Except.ok.inj heq).symm⟩
      refine hrelated.imp ?_
      intro r ws h
      split at h
      case h_1 => simp at h
      case h_2 other hother =>
        simp only [bind_eq_ok_iff] at h
        obtain ⟨fact, hfact, inner, hinner, hws⟩ := h
        exact ⟨other, fact, inner, _, hother, hfact, hinner, hws⟩
    · rintro ⟨locals, globals, rels, related, attributes, ways', hlocals, hglobals, hrels, hrelated,
        hattributes, hways', rfl⟩
      refine ⟨locals, hlocals, globals, hglobals, rels, hrels, related, ?_, attributes, hattributes,
        ways', hways', rfl⟩
      refine hrelated.imp ?_
      intro r ws h
      obtain ⟨other, fact, inner, hnext, hother, hfact, hinner, hws⟩ := h
      split
      case h_1 hnone => simp [hother] at hnone
      case h_2 other' hother' =>
        obtain rfl : other = other' := Option.some.inj (hother.symm.trans hother')
        exact bind_eq_ok_iff.mpr ⟨fact, hfact, bind_eq_ok_iff.mpr ⟨inner, hinner, hws⟩⟩

/-- What holds of the ways of a goal that is on the path already, and of those of a goal if it holds of those of the
goals that its relations lead to, holds of all ways. -/
theorem waysTo_induction {motive : List Goal → Goal → List Way → Prop}
    (visited : ∀ {path : List Goal} {goal : Goal}, path.any goal.same = true → motive path goal [])
    (followed : ∀ {path : List Goal} {goal : Goal} {hgoal : goal ∈ p.goals start} {ways : List Way} {b : Block},
      path.any goal.same = false → p.block? goal.type = some b → p.waysTo facts s start path goal hgoal = .ok ways →
      (∀ {next hnext inner}, p.waysTo facts s start (goal :: path) next hnext = .ok inner →
        motive (goal :: path) next inner) → motive path goal ways)
    {ways : List Way} (h : p.waysTo facts s start path goal hgoal = .ok ways) : motive path goal ways := by
  -- by induction on the goals that are not on the path
  induction hsize : (p.unvisited start path).length using Nat.strongRecOn generalizing path goal ways with
  | ind size ih =>
    cases hpath : path.any goal.same with
    | true =>
      rw [waysTo_of_visited hpath, Except.ok.injEq] at h
      subst h
      exact visited hpath
    | false =>
      cases hb : p.block? goal.type with
      | none => simp [waysTo_of_undeclared hpath hb] at h
      | some b =>
        refine followed hpath hb h ?_
        intro next hnext inner hinner
        exact ih _ (hsize ▸ length_unvisited_lt hgoal hpath) hinner rfl

/-! ## The ways of a goal -/

section Trails

variable {db : Database} {value : Literal → Value}

/-- The ways of a new goal that leave no resource. -/
theorem direct_iff {b : Block} {x : Operand} (hb : p.block? goal.type = some b) {ev : Evidence} :
    p.Direct ev goal x ↔
      (∃ n ∈ (b.derive goal.grants).localRoles, ev.hasRoleOn goal.type n x) ∨
        (∃ g ∈ (b.derive goal.grants).globalRoles, ev.hasGlobalRole g) ∨
          ∃ a ∈ (b.derive goal.grants).attributes, ev.hasAttribute a goal.type x := by
  simp only [b.mem_derive_localRoles, b.mem_derive_globalRoles, b.mem_derive_attributes]
  constructor
  · intro h
    cases h with
    | @role n b' hb' hn hrole hev =>
      obtain rfl : b = b' := Option.some.inj (hb.symm.trans hb')
      exact .inl ⟨n, ⟨hrole, hn⟩, hev⟩
    | @globalRole n g b' hb' hn hr hev =>
      obtain rfl : b = b' := Option.some.inj (hb.symm.trans hb')
      exact .inr (.inl ⟨g, ⟨n, hn, hr⟩, hev⟩)
    | @hasAttribute n a b' hb' hn hr hev =>
      obtain rfl : b = b' := Option.some.inj (hb.symm.trans hb')
      exact .inr (.inr ⟨a, ⟨n, hn, hr⟩, hev⟩)
  · rintro (⟨n, ⟨hrole, hn⟩, hev⟩ | ⟨g, ⟨n, hn, hr⟩, hev⟩ | ⟨a, ⟨n, hn, hr⟩, hev⟩)
    · exact .role hb hn hrole hev
    · exact .globalRole hb hn hr hev
    · exact .hasAttribute hb hn hr hev

/-- What a relation's ways hold of, when the ways of the goal it leads to are known. -/
def HoldsAlong (p : Policy) (ev : Evidence) (path : List Goal) (goal : Goal) (b : Block)
    (x : Operand) (r : String × List String) : Prop :=
  ∃ other y, b.related? r.1 = some other ∧ ev.isRelated goal.type r.1 other x y ∧
    ∃ gs, p.Trail ev (p.relatedGoal other r.2) y gs ∧ FreshFrom (goal :: path) gs

/-- Relation by relation, a trail goes on from a goal that the first one leads to. -/
theorem exists_holdsAlong_iff {b : Block} {x : Operand} {ev : Evidence}
    {rels : List (String × List String)} (hb : p.block? goal.type = some b)
    (hrels : ∀ r, r ∈ rels ↔ r.1 ∈ (b.derive goal.grants).related.map (·.1) ∧
      r.2 = b.requiredOn goal.grants r.1) :
    (∃ r ∈ rels, HoldsAlong p ev path goal b x r) ↔
      ∃ next y, p.LeadsTo ev goal x next y ∧
        ∃ gs, p.Trail ev next y gs ∧ FreshFrom (goal :: path) gs := by
  constructor
  · rintro ⟨⟨relation, roles⟩, hr, other, y, hother, hev, htrail⟩
    obtain ⟨hrelation, hroles⟩ := (hrels _).mp hr
    replace hroles : roles = b.requiredOn goal.grants relation := hroles
    subst hroles
    obtain ⟨n, m, hn, hrule⟩ := (b.mem_derive_related goal.grants).mp hrelation
    exact ⟨_, y, .along hb hn hrule hother hev, htrail⟩
  · rintro ⟨next, y, hstep, htrail⟩
    cases hstep with
    | @along n m relation other y b' hb' hn hrule hother hev =>
      obtain rfl : b = b' := Option.some.inj (hb.symm.trans hb')
      have hrelation := (b.mem_derive_related goal.grants).mpr ⟨n, m, hn, hrule⟩
      exact ⟨(relation, _), (hrels _).mpr ⟨hrelation, rfl⟩, other, y, hother, hev, htrail⟩

/-- The ways that leave no resource hold exactly of the resources on which the goal is reached. -/
theorem holds_directWays_iff {b : Block} {x : Operand} (hb : p.block? goal.type = some b)
    {locals globals attributeWays : List Way} {attributes : List String}
    (hlocals : p.localWays facts s goal.type (b.derive goal.grants).localRoles = .ok locals)
    (hglobals : p.globalWays facts s (b.derive goal.grants).globalRoles = .ok globals)
    (hattributes : Name.inOrder (b.derive goal.grants).attributes = .ok attributes)
    (hways : attributes.mapM (attributeWay facts goal.type) = .ok attributeWays) :
    (∃ w ∈ locals ++ globals ++ attributeWays, Clause.holds db value x w.clause = true) ↔
      p.Direct (facts.evidence p s db value) goal x := by
  simp only [List.mem_append, or_and_right, exists_or]
  rw [direct_iff hb, holds_localWays_iff hlocals, holds_globalWays_iff hglobals,
    holds_attributeWays_iff (p := p) (s := s) hways, or_assoc]
  simp only [Name.mem_inOrder_iff hattributes]

/-- The ways that relations add hold as the ways of the goals they lead to do. -/
theorem holds_alongWays_iff {b : Block} {x : Operand} {rels : List (String × List String)}
    {related : List (List Way)}
    (hrelated : List.Forall₂ (AddsAlong p facts s start path goal b) rels related)
    (hinner : ∀ next hnext inner y, p.waysTo facts s start (goal :: path) next hnext = .ok inner →
      ((∃ w ∈ inner, Clause.holds db value y w.clause = true) ↔
        ∃ gs, p.Trail (facts.evidence p s db value) next y gs ∧ FreshFrom (goal :: path) gs)) :
    (∃ w ∈ related.flatten, Clause.holds db value x w.clause = true) ↔
      ∃ r ∈ rels, HoldsAlong p (facts.evidence p s db value) path goal b x r := by
  have hflatten : (∃ w ∈ related.flatten, Clause.holds db value x w.clause = true) ↔
      ∃ ws ∈ related, ∃ w ∈ ws, Clause.holds db value x w.clause = true := by
    simp only [List.mem_flatten]
    exact ⟨fun ⟨w, ⟨ws, hws, hw⟩, h⟩ => ⟨ws, hws, w, hw, h⟩,
      fun ⟨ws, hws, w, hw, h⟩ => ⟨w, ⟨ws, hws, hw⟩, h⟩⟩
  rw [hflatten]
  refine exists_mem_iff_of_forall₂ hrelated ?_
  intro r _ ws hws
  obtain ⟨other, fact, inner, hnext, hother, hfact, hways, hws⟩ := hws
  rw [holds_relatedWays_iff hws]
  simp only [hinner _ _ _ _ hways]
  constructor
  · rintro ⟨row, hrow, hx, htrail⟩
    exact ⟨other, _, hother, ⟨fact, hfact, row, hrow, hx, rfl⟩, htrail⟩
  -- the policy and the facts have only one answer for a relation, so it is the one compiled
  · rintro ⟨other', y, hother', ⟨fact', hfact', row, hrow, hx, rfl⟩, htrail⟩
    obtain rfl : other = other' := Option.some.inj (hother.symm.trans hother')
    obtain rfl : fact = fact' := Except.ok.inj (hfact.symm.trans hfact')
    exact ⟨row, hrow, hx, htrail⟩

/-- The ways of a goal hold of a resource exactly when there is a trail from the goal that repeats no
goal, neither its own nor one of the path. -/
theorem holds_waysTo_iff_exists_trail {ways : List Way} {x : Operand}
    (h : p.waysTo facts s start path goal hgoal = .ok ways) :
    (∃ w ∈ ways, Clause.holds db value x w.clause = true) ↔
      ∃ gs, p.Trail (facts.evidence p s db value) goal x gs ∧ FreshFrom path gs := by
  refine waysTo_induction (motive := fun path goal ways => ∀ x,
    (∃ w ∈ ways, Clause.holds db value x w.clause = true) ↔
      ∃ gs, p.Trail (facts.evidence p s db value) goal x gs ∧ FreshFrom path gs) ?_ ?_ h x
  · intro path goal hpath x
    simpa using not_exists_fresh_trail hpath
  · intro path goal _ ways b hpath hb h ih x
    obtain ⟨locals, globals, rels, related, attributes, attributeWays, hlocals, hglobals, hrels, hrelated,
      hattributes, hways, rfl⟩ := (waysTo_eq_ok_iff hpath hb).mp h
    have halong := holds_alongWays_iff (x := x) hrelated fun _ _ _ y hinner => ih hinner y
    rw [exists_fresh_trail_iff hpath, ← exists_holdsAlong_iff hb fun _ => mem_relatedInOrder_iff hrels, ← halong,
      ← holds_directWays_iff hb hlocals hglobals hattributes hways, ← exists_or]
    refine exists_congr ?_
    intro w
    simp only [List.mem_append, ← or_and_right]
    exact and_congr_left fun _ => or_right_comm

end Trails

end Policy

end RowGuard
