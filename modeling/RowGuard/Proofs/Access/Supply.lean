import RowGuard.Policy.Validation
import RowGuard.Proofs.Access.Compile

/-!
# Compiling succeeds

A consistent policy compiles for every goal on a declared type when the fact book supplies the facts that
the policy needs (`FactBook.Supplies`): each with a query of the right number of columns.
-/

namespace RowGuard

open Outcome

/-- The query has the number of result columns, with names that can be looked up. -/
structure FactQuery.Sized (q : FactQuery) (n : Nat) : Prop where
  arity : q.arity = n
  keys : ∀ types, ((q.toSubquery types).columns.all fun c => c.1.isKey) = true

theorem FactQuery.sized_selection {s : Selection} {n : Nat} (h : s.columns.length = n) :
    (FactQuery.selection s).Sized n where
  arity := h
  keys types := by simp [toSubquery, Data.isKey]

/-- The policy asks for roles on the system as a whole. -/
def Policy.UsesGlobalRoles (p : Policy) : Prop :=
  ∃ b ∈ p.blocks, b.name = globalType ∧ b.roles ≠ [] ∨ ∃ n g, ⟨n, .globalRole g⟩ ∈ b.rules

namespace FactBook

/-- The book has a query of the right size for each fact that the policy needs. -/
structure Supplies (facts : FactBook) (p : Policy) : Prop where
  actorKey : p.actorType.isKey = true
  role : ∀ b ∈ p.blocks, b.name ≠ globalType → b.roles ≠ [] →
    ∃ q, facts.roles.lookup (.text b.name) = some q ∧ q.Sized 3
  globalRole : p.UsesGlobalRoles → ∃ q, facts.globalRoles = some q ∧ q.Sized 2
  relation : ∀ b ∈ p.blocks, ∀ n m relation other, ⟨n, .roleOn m relation⟩ ∈ b.rules →
    b.related? relation = some other →
    ∃ q, facts.relations.lookup (.text b.name, .text relation, .text other) = some q ∧ q.Sized 2
  hasAttribute : ∀ b ∈ p.blocks, ∀ n a, ⟨n, .hasAttribute a⟩ ∈ b.rules →
    ∃ q, facts.attributes.lookup (.text a, .text b.name) = some q ∧ q.Sized 1

variable {facts : FactBook} {q : FactQuery} {types : List (Option ColumnType)}

theorem checked_of_sized (signature : String) (h : q.Sized types.length) :
    checked signature types q = .ok (q.toSubquery types) := by
  simp only [checked, h.arity, ne_eq, not_true_eq_false, if_false, h.keys types, if_true]

theorem found_of_keys {names : List Data} (absent : PolicyFault)
    (h : names.all Data.isKey = true) : found names absent (some q) = .ok q := by
  simp [found, h]

theorem requireKey_of_isKey {d : Data} (h : d.isKey = true) : d.requireKey = .ok () := by
  rw [Data.requireKey, if_pos h]

theorem role_of_lookup {actor : Data} {type : String} (hactor : actor.isKey = true)
    (h : facts.roles.lookup (.text type) = some q) (hq : q.Sized 3) :
    facts.role actor (.text type) =
      .ok (q.toSubquery [facts.idType actor, some .string, facts.idType (.text type)]) := by
  rw [role, h, found_of_keys _ rfl, ok_bind, requireKey_of_isKey hactor, ok_bind]
  exact checked_of_sized _ hq

theorem globalRole_of_some {actor : Data} (hactor : actor.isKey = true)
    (h : facts.globalRoles = some q) (hq : q.Sized 2) :
    facts.globalRole actor = .ok (q.toSubquery [facts.idType actor, some .string]) := by
  rw [globalRole, h, found_of_keys _ rfl, ok_bind, requireKey_of_isKey hactor, ok_bind]
  exact checked_of_sized _ hq

theorem relation_of_lookup {type relation other : String}
    (h : facts.relations.lookup (.text type, .text relation, .text other) = some q)
    (hq : q.Sized 2) :
    facts.relation (.text type) (.text relation) (.text other) =
      .ok (q.toSubquery [facts.idType (.text type), facts.idType (.text other)]) := by
  rw [FactBook.relation, h, found_of_keys _ rfl, ok_bind]
  exact checked_of_sized _ hq

theorem attr_of_lookup {attr type : String}
    (h : facts.attributes.lookup (.text attr, .text type) = some q) (hq : q.Sized 1) :
    facts.attr (.text attr) (.text type) = .ok (q.toSubquery [facts.idType (.text type)]) := by
  rw [FactBook.attr, h, found_of_keys _ rfl, ok_bind]
  exact checked_of_sized _ hq

/-- What is found under a key stands in the list under one that is equal to it. -/
theorem exists_mem_of_lookup {κ ε : Type} [BEq κ] {key : κ} {value : ε} {l : List (κ × ε)}
    (h : l.lookup key = some value) : ∃ entry ∈ l, (key == entry.1) = true := by
  by_contra hnone
  have hlookup : l.lookup key = none := by
    refine List.lookup_eq_none_iff.mpr ?_
    intro entry hentry
    rw [bne, Bool.not_eq_true', Bool.eq_false_iff]
    exact fun heq => hnone ⟨entry, hentry, heq⟩
  simp [hlookup] at h

/-- What is found under a key stands in the list. -/
theorem lookup_mem {κ ε : Type} [BEq κ] {key : κ} {value : ε} {l : List (κ × ε)}
    (h : l.lookup key = some value) : ∃ k, (k, value) ∈ l := by
  induction l with
  | nil => simp at h
  | cons entry rest ih =>
    obtain ⟨k, v⟩ := entry
    rw [List.lookup_cons] at h
    split at h
    · exact ⟨k, Option.some.inj h ▸ List.mem_cons_self⟩
    · obtain ⟨k', hk'⟩ := ih h
      exact ⟨k', List.mem_cons_of_mem _ hk'⟩

theorem exists_of_found {names : List Data} {absent : PolicyFault} {query : Option FactQuery}
    (h : found names absent query = .ok q) : query = some q := by
  unfold found at h
  split at h
  case isTrue => simp at h
  case isFalse =>
    cases query with
    | none => simp at h
    | some q' => rw [Except.ok.inj h]

/-- A fact that the book answers is one that it has a query for. -/
theorem exists_lookup_of_role {actor : Data} {type : String} {fact : Subquery}
    (h : facts.role actor (.text type) = .ok fact) : ∃ q, facts.roles.lookup (.text type) = some q := by
  obtain ⟨q, hfound, _⟩ := bind_eq_ok_iff.mp h
  exact ⟨q, exists_of_found hfound⟩

theorem exists_lookup_of_relation {type relation other : String} {fact : Subquery}
    (h : facts.relation (.text type) (.text relation) (.text other) = .ok fact) :
    ∃ q, facts.relations.lookup (.text type, .text relation, .text other) = some q := by
  obtain ⟨q, hfound, _⟩ := bind_eq_ok_iff.mp h
  exact ⟨q, exists_of_found hfound⟩

theorem exists_lookup_of_attr {attr type : String} {fact : Subquery}
    (h : facts.attr (.text attr) (.text type) = .ok fact) :
    ∃ q, facts.attributes.lookup (.text attr, .text type) = some q := by
  obtain ⟨q, hfound, _⟩ := bind_eq_ok_iff.mp h
  exact ⟨q, exists_of_found hfound⟩

end FactBook

namespace Policy

variable {p : Policy} {facts : FactBook} {s : Subject}

/-- In a consistent policy a required relation is declared and leads to a declared type. -/
theorem exists_related_of_validate (h : p.validate none = .ok ()) {b : Block} (hb : b ∈ p.blocks)
    {n m relation : String} (hr : ⟨n, .roleOn m relation⟩ ∈ b.rules) :
    ∃ other b', b.related? relation = some other ∧ p.block? other = some b' := by
  have hproblems := ((p.validate_eq_ok_iff none).mp h).2
  simp only [problems, List.append_nil, List.flatMap_eq_nil_iff, blockProblems,
    List.append_eq_nil_iff] at hproblems
  have hrule := (List.append_eq_nil_iff.mp ((hproblems b hb).2 _ hr)).2
  cases hrelated : b.related? relation with
  | none => simp [hrelated] at hrule
  | some other =>
    simp only [hrelated, rolesOf] at hrule
    cases hother : p.block? other with
    | none => simp [hother] at hrule
    | some b' => exact ⟨other, b', rfl, hother⟩

theorem exists_globalWays (hfacts : facts.Supplies p) (hactor : p.isActor s = true)
    {roles : List String} (h : roles ≠ [] → p.UsesGlobalRoles) :
    ∃ ways, p.globalWays facts s roles = .ok ways := by
  unfold globalWays
  split
  case isTrue => exact ⟨_, rfl⟩
  case isFalse hroles =>
    obtain ⟨q, hq, hsized⟩ := hfacts.globalRole (h (by simpa using hroles))
    have hfact := FactBook.globalRole_of_some hfacts.actorKey hq hsized
    obtain ⟨texts, htexts, _⟩ := Name.exists_textsInOrder_string roles
    have hsubject := subjectLiteral_eq_ok_iff.mpr ⟨hactor, (rfl : facts.actorLiteral p s = _)⟩
    rw [htexts, ok_bind, globalWay, hfact, ok_bind, hsubject]
    exact ⟨_, rfl⟩

theorem exists_derivedGlobalWays (hfacts : facts.Supplies p) (hactor : p.isActor s = true)
    {b : Block} (hb : b ∈ p.blocks) (grants : List String) :
    ∃ ways, p.globalWays facts s (b.derive grants).globalRoles = .ok ways := by
  refine exists_globalWays hfacts hactor ?_
  intro hne
  obtain ⟨g, hg⟩ := List.exists_mem_of_ne_nil _ hne
  obtain ⟨n, _, hr⟩ := (b.mem_derive_globalRoles grants).mp hg
  exact ⟨b, hb, .inr ⟨n, g, hr⟩⟩

theorem exists_localWays (hfacts : facts.Supplies p) (hactor : p.isActor s = true) {b : Block}
    (hb : b ∈ p.blocks) {roles : List String} (hroles : ∀ n ∈ roles, n ∈ b.roles) :
    ∃ ways, p.localWays facts s b.name roles = .ok ways := by
  unfold localWays
  split
  case isTrue => exact ⟨_, rfl⟩
  case isFalse hne =>
    have hne' : b.roles ≠ [] := by
      obtain ⟨n, hn⟩ := List.exists_mem_of_ne_nil roles (by simpa using hne)
      exact List.ne_nil_of_mem (hroles n hn)
    simp only [Name.isText_string, decide_eq_true_eq]
    by_cases hglobal : b.name = globalType
    · rw [if_pos hglobal]
      exact exists_globalWays hfacts hactor fun _ => ⟨b, hb, .inl ⟨hglobal, hne'⟩⟩
    · rw [if_neg hglobal]
      obtain ⟨q, hq, hsized⟩ := hfacts.role b hb hglobal hne'
      have hfact : facts.role p.actorType (Name.toData b.name) = .ok _ :=
        FactBook.role_of_lookup hfacts.actorKey hq hsized
      obtain ⟨texts, htexts, _⟩ := Name.exists_textsInOrder_string roles
      have hsubject := subjectLiteral_eq_ok_iff.mpr ⟨hactor, (rfl : facts.actorLiteral p s = _)⟩
      rw [htexts, ok_bind, hfact, ok_bind, hsubject]
      exact ⟨_, rfl⟩

theorem attributeWay_of_attr {type a : String} {fact : Subquery}
    (h : facts.attr (.text a) (.text type) = .ok fact) :
    attributeWay facts type a = .ok ⟨"is_" ++ a, .hasAttribute fact⟩ := by
  rw [attributeWay, show facts.attr (Name.toData a) (Name.toData type) = .ok fact from h]
  rfl

theorem exists_attributeWays (hfacts : facts.Supplies p) {b : Block} (hb : b ∈ p.blocks)
    {attributes : List String} (h : ∀ a ∈ attributes, ∃ n, ⟨n, .hasAttribute a⟩ ∈ b.rules) :
    ∃ ways, attributes.mapM (attributeWay facts b.name) = .ok ways := by
  refine exists_mapM_eq_ok ?_
  intro a ha
  obtain ⟨n, hr⟩ := h a ha
  obtain ⟨q, hq, hsized⟩ := hfacts.hasAttribute b hb n a hr
  exact ⟨_, attributeWay_of_attr (FactBook.attr_of_lookup hq hsized)⟩

/-- A consistent policy has ways for every goal on a declared type, given the facts it needs. -/
theorem exists_waysTo_eq_ok (hvalid : p.validate none = .ok ()) (hfacts : facts.Supplies p)
    (hactor : p.isActor s = true) {start goal : Goal} {path : List Goal}
    (hgoal : goal ∈ p.goals start) {b : Block} (hb : p.block? goal.type = some b) :
    ∃ ways, p.waysTo facts s start path goal hgoal = .ok ways := by
  -- as the recursion goes: by the number of goals that are not on the path
  induction hsize : (p.unvisited start path).length using Nat.strongRecOn
    generalizing path goal b with
  | ind size ih =>
    cases hpath : path.any goal.same with
    | true => exact ⟨_, waysTo_of_visited hpath⟩
    | false =>
      have hmem := mem_of_block? hb
      have hname := name_of_block? hb
      obtain ⟨locals, hlocals⟩ := exists_localWays hfacts hactor hmem
        fun n hn => ((b.mem_derive_localRoles goal.grants).mp hn).1
      obtain ⟨globals, hglobals⟩ := exists_derivedGlobalWays hfacts hactor hmem goal.grants
      obtain ⟨rels, hrels, hmemRels⟩ := exists_relatedInOrder b goal.grants
      obtain ⟨attributes, hattributes, hmemAttributes⟩ :=
        Name.exists_inOrder_string (b.derive goal.grants).attributes
      obtain ⟨ways, hways⟩ : ∃ ways, attributes.mapM (attributeWay facts b.name) = .ok ways := by
        refine exists_attributeWays hfacts hmem ?_
        intro a ha
        obtain ⟨n, _, hr⟩ := (b.mem_derive_attributes goal.grants).mp ((hmemAttributes a).mp ha)
        exact ⟨n, hr⟩
      obtain ⟨related, hrelated⟩ :
          ∃ related, List.Forall₂ (AddsAlong p facts s start path goal b) rels related := by
        refine exists_forall₂ ?_
        intro r hr
        obtain ⟨n, m, _, hrule⟩ := (b.mem_derive_related goal.grants).mp ((hmemRels r).mp hr).1
        obtain ⟨other, b', hother, hb'⟩ := exists_related_of_validate hvalid hmem hrule
        obtain ⟨q, hq, hsized⟩ := hfacts.relation b hmem n m r.1 other hrule hother
        have hfact := FactBook.relation_of_lookup hq hsized
        have hnext := relatedGoal_mem_goals (mem_relatedTypes hmem hother) r.2 start
        have hsmaller : (p.unvisited start (goal :: path)).length < size :=
          hsize ▸ length_unvisited_lt hgoal hpath
        obtain ⟨inner, hinner⟩ := ih _ hsmaller hnext hb' rfl
        obtain ⟨_, hws⟩ := exists_relatedWays r.2 r.1 _ inner
        exact ⟨_, other, _, inner, hnext, hother, hname ▸ hfact, hinner, hws⟩
      refine ⟨_, (waysTo_eq_ok_iff hpath hb).mpr ⟨locals, globals, rels, related, attributes, ways,
        hname ▸ hlocals, hglobals, hrels, hrelated, hattributes, hname ▸ hways, rfl⟩⟩

end Policy

end RowGuard
