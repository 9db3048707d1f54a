import RowGuard.Proofs.Evaluator.GlobalRoles

/-!
# Validated policies

Validation against a fact book asks for the role assignments of each type that has roles, and for the relations and
attributes that the rules of a resource rely on. What the rules of the global block rely on it does not ask for.
So a validated policy compiles for every declared action exactly if the book has these facts as well
(`Policy.validated_compiles_iff`).
-/

namespace RowGuard

open Outcome

namespace FactBook

/-- Each query of the book has a column for each argument of its fact, with names that can be looked up. -/
structure Sized (b : FactBook) : Prop where
  roles : ∀ entry ∈ b.roles, entry.2.Sized 3
  globalRoles : ∀ q, b.globalRoles = some q → q.Sized 2
  relations : ∀ entry ∈ b.relations, entry.2.Sized 2
  attributes : ∀ entry ∈ b.attributes, entry.2.Sized 1

/-- The book has a query for each relation and attribute that a rule of the global block relies on. -/
structure SuppliesGlobalRules (b : FactBook) (p : Policy) : Prop where
  relation : ∀ gb, p.block? globalType = some gb → ∀ n m relation other, ⟨n, .roleOn m relation⟩ ∈ gb.rules →
    gb.related? relation = some other →
    ∃ q, b.relations.lookup (.text globalType, .text relation, .text other) = some q
  hasAttribute : ∀ gb, p.block? globalType = some gb → ∀ n a, ⟨n, .hasAttribute a⟩ ∈ gb.rules →
    ∃ q, b.attributes.lookup (.text a, .text globalType) = some q

end FactBook

namespace Policy

variable {p : Policy} {facts : FactBook} {s : Subject}

/-! ## What validation asks for -/

theorem nodup_of_ofBlocks {blocks : List Block} {actorType : Data} (h : ofBlocks blocks actorType = .ok p) :
    (p.blocks.map (·.name)).Nodup := by
  have hp : p = ⟨blocks, actorType⟩ := by
    unfold ofBlocks at h
    split at h
    case h_1 => cases h
    case h_2 => exact (Except.ok.inj h).symm
  subst hp
  exact (ofBlocks_eq_ok_iff blocks actorType).mp h

/-- A policy that is consistent with a fact book is consistent. -/
theorem validate_none_of_validate (h : p.validate (some facts) = .ok ()) : p.validate none = .ok () := by
  have hproblems := ((p.validate_eq_ok_iff _).mp h).2
  refine (p.validate_eq_ok_iff none).mpr ⟨looksUpKeys_string p _, ?_⟩
  rw [problems, List.append_nil]
  exact (List.append_eq_nil_iff.mp hproblems).1

theorem blockFactProblems_eq_nil (h : p.validate (some facts) = .ok ()) {b : Block} (hb : b ∈ p.blocks) :
    blockFactProblems facts b = [] := by
  have hproblems := ((p.validate_eq_ok_iff _).mp h).2
  exact List.flatMap_eq_nil_iff.mp (List.append_eq_nil_iff.mp hproblems).2 b hb

theorem exists_globalRoles_of_validate (h : p.validate (some facts) = .ok ()) {gb : Block} (hgb : gb ∈ p.blocks)
    (hname : gb.name = globalType) (hroles : gb.roles ≠ []) : ∃ q, facts.globalRoles = some q := by
  have hproblems := blockFactProblems_eq_nil h hgb
  rw [blockFactProblems, if_pos (by simp [Block.isGlobal, hname])] at hproblems
  refine Option.isSome_iff_exists.mp ?_
  by_contra hnone
  simp [hroles, Option.not_isSome_iff_eq_none.mp hnone] at hproblems

section Resources

variable {b : Block} (h : p.validate (some facts) = .ok ()) (hb : b ∈ p.blocks) (hname : b.name ≠ globalType)

include h hb hname

/-- Validation asks for the facts of a resource's roles and rules. -/
theorem resourceFactProblems_eq_nil :
    (b.roles ≠ [] → hasRoleFact facts b.name = true) ∧ ∀ r ∈ b.rules, ruleFactProblems facts b r = [] := by
  have hproblems := blockFactProblems_eq_nil h hb
  rw [blockFactProblems, if_neg (by simp [Block.isGlobal, hname])] at hproblems
  obtain ⟨hroles, hrules⟩ := List.append_eq_nil_iff.mp hproblems
  refine ⟨?_, List.flatMap_eq_nil_iff.mp hrules⟩
  intro hne
  by_contra hlacks
  simp [hne, hlacks] at hroles

theorem exists_roles_of_validate (hroles : b.roles ≠ []) : ∃ q, facts.roles.lookup (.text b.name) = some q :=
  Option.isSome_iff_exists.mp ((resourceFactProblems_eq_nil h hb hname).1 hroles)

theorem exists_relation_of_validate {n m relation other : String} (hr : ⟨n, .roleOn m relation⟩ ∈ b.rules)
    (hother : b.related? relation = some other) :
    ∃ q, facts.relations.lookup (.text b.name, .text relation, .text other) = some q := by
  have hproblems := (resourceFactProblems_eq_nil h hb hname).2 _ hr
  refine Option.isSome_iff_exists.mp ?_
  by_contra hnone
  have hlacks : hasRelationFact facts b.name relation other = false :=
    Bool.eq_false_iff.mpr hnone
  simp [ruleFactProblems, hother, hlacks] at hproblems

theorem exists_attribute_of_validate {n a : String} (hr : ⟨n, .hasAttribute a⟩ ∈ b.rules) :
    ∃ q, facts.attributes.lookup (.text a, .text b.name) = some q := by
  have hproblems := (resourceFactProblems_eq_nil h hb hname).2 _ hr
  refine Option.isSome_iff_exists.mp ?_
  by_contra hnone
  have hlacks : hasAttributeFact facts a b.name = false := Bool.eq_false_iff.mpr hnone
  simp [ruleFactProblems, hlacks] at hproblems

end Resources

/-- A validated policy that is supplied for the rules of its global block is supplied with all it needs. -/
theorem supplies_of_validate (hdistinct : (p.blocks.map (·.name)).Nodup) (hkey : p.actorType.isKey = true)
    (hsized : facts.Sized) (h : p.validate (some facts) = .ok ()) (hglobal : facts.SuppliesGlobalRules p) :
    facts.Supplies p where
  actorKey := hkey
  role b hb hname hroles := by
    obtain ⟨q, hq⟩ := exists_roles_of_validate h hb hname hroles
    obtain ⟨_, hmem⟩ := FactBook.lookup_mem hq
    exact ⟨q, hq, hsized.roles _ hmem⟩
  globalRole huses := by
    obtain ⟨q, hq⟩ : ∃ q, facts.globalRoles = some q := by
      obtain ⟨b, hb, ⟨hname, hroles⟩ | ⟨n, g, hr⟩⟩ := huses
      · exact exists_globalRoles_of_validate h hb hname hroles
      · obtain ⟨_, gb, hgb, hg⟩ := exists_globalBlock_of_validate (validate_none_of_validate h) hb hr
        exact exists_globalRoles_of_validate h (mem_of_block? hgb) (name_of_block? hgb) (List.ne_nil_of_mem hg)
    exact ⟨q, hq, hsized.globalRoles q hq⟩
  relation b hb n m relation other hr hother := by
    obtain ⟨q, hq⟩ : ∃ q, facts.relations.lookup (.text b.name, .text relation, .text other) = some q := by
      by_cases hname : b.name = globalType
      · rw [hname]
        exact hglobal.relation b (hname ▸ block?_of_mem hdistinct hb) n m relation other hr hother
      · exact exists_relation_of_validate h hb hname hr hother
    obtain ⟨_, hmem⟩ := FactBook.lookup_mem hq
    exact ⟨q, hq, hsized.relations _ hmem⟩
  hasAttribute b hb n a hr := by
    obtain ⟨q, hq⟩ : ∃ q, facts.attributes.lookup (.text a, .text b.name) = some q := by
      by_cases hname : b.name = globalType
      · rw [hname]
        exact hglobal.hasAttribute b (hname ▸ block?_of_mem hdistinct hb) n a hr
      · exact exists_attribute_of_validate h hb hname hr
    obtain ⟨_, hmem⟩ := FactBook.lookup_mem hq
    exact ⟨q, hq, hsized.attributes _ hmem⟩

/-! ## What compiling looks up -/

theorem exists_block_of_declares {type action : String} (h : p.declares type action = true) :
    ∃ b, p.block? type = some b ∧ b.declares action = true := by
  unfold declares at h
  cases hb : p.block? type with
  | none => simp [hb] at h
  | some b => exact ⟨b, rfl, by simpa [hb] using h⟩

/-- In a consistent policy each rule grants a name that its block declares. -/
theorem declares_grant_of_validate (h : p.validate none = .ok ()) {b : Block} (hb : b ∈ p.blocks) {r : Rule}
    (hr : r ∈ b.rules) : b.declares r.grant = true := by
  have hproblems := ((p.validate_eq_ok_iff none).mp h).2
  simp only [problems, List.append_nil, List.flatMap_eq_nil_iff, blockProblems, List.append_eq_nil_iff]
    at hproblems
  simpa using (List.append_eq_nil_iff.mp ((hproblems b hb).2 _ hr)).1

/-- What compiles has looked up every relation and attribute that a rule for it relies on. -/
theorem lookups_of_condition {type action : String} {b : Block} {c : Condition} (hb : p.block? type = some b)
    (hc : p.condition facts s type [action] = .ok c) :
    (∀ m relation other, ⟨action, .roleOn m relation⟩ ∈ b.rules → b.related? relation = some other →
      ∃ q, facts.relations.lookup (.text type, .text relation, .text other) = some q) ∧
    ∀ a, ⟨action, .hasAttribute a⟩ ∈ b.rules → ∃ q, facts.attributes.lookup (.text a, .text type) = some q := by
  obtain ⟨ways, hways, _⟩ := bind_eq_ok_iff.mp hc
  rw [Policy.ways, Name.requireKeys_string, ok_bind] at hways
  have hblock : p.block? (Goal.mk type [action].eraseDups).type = some b := hb
  obtain ⟨_, _, rels, related, attributes, _, _, _, hrels, hrelated, hattributes, hattributeWays, _⟩ :=
    (waysTo_eq_ok_iff rfl hblock).mp hways
  have hreached : b.Reaches [action].eraseDups action := .grant (by simp)
  refine ⟨?_, ?_⟩
  · intro m relation other hr hother
    have hrel : (relation, b.requiredOn [action].eraseDups relation) ∈ rels :=
      (mem_relatedInOrder_iff hrels).mpr ⟨(b.mem_derive_related _).mpr ⟨action, m, hreached, hr⟩, rfl⟩
    obtain ⟨_, _, other', fact, _, _, hother', hfact, _⟩ := exists_of_mem_right hrelated.flip hrel
    obtain rfl : other = other' := Option.some.inj (hother.symm.trans hother')
    exact FactBook.exists_lookup_of_relation hfact
  · intro a hr
    have ha : a ∈ attributes :=
      (Name.mem_inOrder_iff hattributes).mpr ((b.mem_derive_attributes _).mpr ⟨action, hreached, hr⟩)
    obtain ⟨w, _, hw⟩ := exists_of_mem_right (mapM_eq_ok_iff.mp hattributeWays).flip ha
    obtain ⟨fact, hfact, _⟩ := bind_eq_ok_iff.mp hw
    exact FactBook.exists_lookup_of_attr hfact

/-- An action that only an attribute gives does not compile without the resources that have it. -/
theorem condition_of_lacking_attribute {type action a : String} {b : Block} {f : Fault}
    (hb : p.block? type = some b) (hderive : b.derive [action] = ⟨type, [], [], [], [a], b.rules⟩)
    (hfact : facts.attr (.text a) (.text type) = .error f) : p.condition facts s type [action] = .error f := by
  have hnone : Name.inOrder ([] : List String) = .ok [] := by
    simp [Name.inOrder, Name.sorted?, Data.allComparable]
  have hone : Name.inOrder [a] = .ok [a] := by
    simp [Name.inOrder, Name.sorted?, Data.allComparable]
  have hgrants : [action].eraseDups = [action] := rfl
  rw [condition, Policy.ways, Name.requireKeys_string, ok_bind, waysTo, dif_neg (by simp)]
  split
  case h_1 hundeclared => simp [hb] at hundeclared
  case h_2 b' hb' =>
    obtain rfl : b' = b := Option.some.inj (hb'.symm.trans hb)
    rw [derivation_string, ok_bind, hgrants, hderive]
    simp only [localWays, globalWays, List.isEmpty_nil, if_true, ok_bind, relatedInOrder, List.map_nil, hnone,
      pure_eq_ok, List.mapM_nil, hone, List.mapM_cons, attributeWay]
    rw [show facts.attr (Name.toData a) (Name.toData type) = .error f from hfact]
    rfl

/-- A validated policy compiles for every declared action, on the system as a whole too, exactly if the book has the
relations and attributes that the rules of the global block rely on. -/
theorem validated_compiles_iff {blocks : List Block} {actorType : Data} (hp : ofBlocks blocks actorType = .ok p)
    (hkey : p.actorType.isKey = true) (hsized : facts.Sized) (hvalid : p.validate (some facts) = .ok ())
    (hactor : p.isActor s = true) :
    (∀ type action, p.declares type action = true → ∃ c, p.condition facts s type [action] = .ok c) ↔
      facts.SuppliesGlobalRules p := by
  have hconsistent := validate_none_of_validate hvalid
  constructor
  · intro hcompiles
    have hgranted : ∀ gb, p.block? globalType = some gb → ∀ r ∈ gb.rules,
        ∃ c, p.condition facts s globalType [r.grant] = .ok c := by
      intro gb hgb r hr
      refine hcompiles globalType r.grant ?_
      simpa [declares, hgb] using declares_grant_of_validate hconsistent (mem_of_block? hgb) hr
    refine ⟨?_, ?_⟩
    · intro gb hgb n m relation other hr hother
      obtain ⟨c, hc⟩ := hgranted gb hgb _ hr
      exact (lookups_of_condition hgb hc).1 m relation other hr hother
    · intro gb hgb n a hr
      obtain ⟨c, hc⟩ := hgranted gb hgb _ hr
      exact (lookups_of_condition hgb hc).2 a hr
  · intro hglobal type action hdeclared
    have hfacts := supplies_of_validate (nodup_of_ofBlocks hp) hkey hsized hvalid hglobal
    obtain ⟨b, hb, _⟩ := exists_block_of_declares hdeclared
    obtain ⟨ways, hways⟩ : ∃ ways, p.waysTo facts s ⟨type, [action].eraseDups⟩ [] ⟨type, [action].eraseDups⟩
        (start_mem_goals p _) = .ok ways := exists_waysTo_eq_ok hconsistent hfacts hactor _ hb
    refine ⟨Condition.ofWays ways, ?_⟩
    rw [condition, Policy.ways, Name.requireKeys_string, ok_bind, hways]
    rfl

end Policy

end RowGuard

namespace RowGuard.Forum

open Policy

/-- Everybody may post while the forum is open. -/
def globalBlock : Block where
  name := globalType
  permissions := ["post"]
  rules := [⟨"post", .hasAttribute "open"⟩]

def policy : Policy := ⟨[globalBlock], .text "User"⟩

/-- Facts that do not say whether the forum is open. -/
def facts : FactBook where
  sqlTypes := [(.text "User", .text)]

/-- The forum is open if there is a row that says so. -/
def openQuery : Selection := ⟨"openings", [⟨"name", .text, false⟩], none, false⟩

/-- Facts that say whether the forum is open. -/
def supplied : FactBook where
  attributes := [((.text "open", .text globalType), .selection openQuery)]
  sqlTypes := [(.text "User", .text)]

def visitor : Subject := ⟨.text "User", .text "vera"⟩

theorem ofBlocks_eq : ofBlocks [globalBlock] (.text "User") = .ok policy := by decide

theorem isActor_visitor : policy.isActor visitor = true := by
  simp [isActor, policy, visitor]

theorem validate_facts : policy.validate (some facts) = .ok () := by decide

/-- The policy is validated against facts that lack one of those it relies on, and the permission that relies on it
does not compile. -/
theorem validated_policy_misses_fact :
    ofBlocks [globalBlock] (.text "User") = .ok policy ∧ facts.Sized ∧ policy.validate (some facts) = .ok () ∧
      policy.isActor visitor = true ∧ policy.declares globalType "post" = true ∧
      policy.condition facts visitor globalType ["post"] =
        .error (.policy (.noAttributeFact (.text "open") (.text globalType))) := by
  refine ⟨ofBlocks_eq, ⟨by simp [facts], by simp [facts], by simp [facts], by simp [facts]⟩, validate_facts,
    isActor_visitor, by decide, ?_⟩
  have hderive : globalBlock.derive ["post"] = ⟨globalType, [], [], [], ["open"], globalBlock.rules⟩ := by
    rw [Block.derive_of_requiredHere (by decide)]
    rfl
  exact condition_of_lacking_attribute (b := globalBlock) rfl hderive rfl

theorem sized_supplied : supplied.Sized where
  roles := by simp [supplied]
  globalRoles := by simp [supplied]
  relations := by simp [supplied]
  attributes entry hentry := by
    obtain rfl := List.mem_singleton.mp hentry
    exact FactQuery.sized_selection rfl

/-- With the fact that the global block relies on, every declared action compiles. -/
theorem validated_compiles_supplied :
    policy.actorType.isKey = true ∧ supplied.Sized ∧ policy.validate (some supplied) = .ok () ∧
      policy.isActor visitor = true ∧
      ∀ type action, policy.declares type action = true →
        ∃ c, policy.condition supplied visitor type [action] = .ok c := by
  have hvalid : policy.validate (some supplied) = .ok () := by decide
  refine ⟨rfl, sized_supplied, hvalid, isActor_visitor, ?_⟩
  refine (validated_compiles_iff ofBlocks_eq rfl sized_supplied hvalid isActor_visitor).mpr ⟨?_, ?_⟩
  · intro gb hgb n m relation other hr _
    obtain rfl : globalBlock = gb := Option.some.inj hgb
    simp [globalBlock] at hr
  · intro gb hgb n a hr
    obtain rfl : globalBlock = gb := Option.some.inj hgb
    obtain ⟨rfl, rfl⟩ : n = "post" ∧ a = "open" := by simpa [globalBlock] using hr
    exact ⟨.selection openQuery, by simp [supplied]⟩

end RowGuard.Forum
