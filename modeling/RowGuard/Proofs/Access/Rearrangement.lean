import RowGuard.Proofs.Access.Nesting
import RowGuard.Proofs.Access.Validated
import RowGuard.Proofs.Policy.LeastClosure

/-!
# Policies that are written down differently

A policy is a set of types, each with its roles, permissions, relations and rules; a document gives them in some
order, and may give a rule more than once. What is compiled does not depend on it (`Policy.compiles_rearranged`):
the ways of a goal are the same list, label by label and clause by clause, so that a condition is the same text.

* `Policy.Rearranges`: two policies that differ only in how they are written down.
* `Block.Rearranges.reaches_iff`: the names that rules reach are the same, and so is each set of a derivation.
* `Policy.waysTo_rearranged`: compiling meets the same goals in both, and sorts what it has collected.
-/

namespace RowGuard

open Outcome

/-- The blocks declare the same, up to the order, and rules also up to repetition. -/
structure Block.Rearranges (b b' : Block) : Prop where
  name : b.name = b'.name
  roles : b.roles.Perm b'.roles
  permissions : b.permissions.Perm b'.permissions
  relations : b.relations.Perm b'.relations
  rules : ∀ r, r ∈ b.rules ↔ r ∈ b'.rules

namespace Policy

/-- The policies consist of blocks that declare the same, up to the order. -/
structure Rearranges (p q : Policy) : Prop where
  actorType : p.actorType = q.actorType
  blocks : ∃ blocks, p.blocks.Perm blocks ∧ List.Forall₂ Block.Rearranges blocks q.blocks

/-- No type is declared twice, and no relation of a type. -/
structure IsKeyed (p : Policy) : Prop where
  types : (p.blocks.map (·.name)).Nodup
  relations : ∀ b ∈ p.blocks, (b.relations.map (·.1)).Nodup

end Policy

/-! ## What is looked up -/

/-- Among distinct keys, what is found under a key is what is paired with it. -/
theorem lookup_eq_some_iff_of_nodup {κ ε : Type} [BEq κ] [LawfulBEq κ] {l : List (κ × ε)} {k : κ} {v : ε}
    (h : (l.map (·.1)).Nodup) : l.lookup k = some v ↔ (k, v) ∈ l := by
  induction l with
  | nil => simp
  | cons entry rest ih =>
    obtain ⟨key, value⟩ := entry
    obtain ⟨hnew, hrest⟩ := List.nodup_cons.mp h
    rw [List.lookup_cons, List.mem_cons]
    by_cases hkey : k = key
    · subst hkey
      have hother : (k, v) ∉ rest := fun hmem => hnew (List.mem_map.mpr ⟨_, hmem, rfl⟩)
      simp [hother, eq_comm]
    · have hne : (k == key) = false := by simpa using hkey
      simp [hne, hkey, ih hrest]

/-- Among distinct keys, the order of the pairs does not matter to what is found. -/
theorem lookup_eq_of_perm {κ ε : Type} [BEq κ] [LawfulBEq κ] {l l' : List (κ × ε)} (k : κ)
    (h : (l.map (·.1)).Nodup) (hperm : l.Perm l') : l.lookup k = l'.lookup k := by
  have h' : (l'.map (·.1)).Nodup := (hperm.map _).nodup h
  ext v
  rw [lookup_eq_some_iff_of_nodup h, lookup_eq_some_iff_of_nodup h', hperm.mem_iff]

namespace Name

/-! ## What is sorted -/

/-- Texts that are sorted come in the same order, whichever one they were given in. -/
theorem mergeSort_eq_of_perm {names names' : List String} (h : names.Perm names') :
    (names.mergeSort fun a b => decide (a ≤ b)) = names'.mergeSort fun a b => decide (a ≤ b) := by
  have hperm := ((List.mergeSort_perm names fun a b => decide (a ≤ b)).trans h).trans
    (List.mergeSort_perm names' fun a b => decide (a ≤ b)).symm
  exact hperm.eq_of_pairwise' (pairwise_mergeSort names) (pairwise_mergeSort names')

theorem inOrder_eq_of_perm {names names' : List String} (h : names.Perm names') :
    inOrder names = inOrder names' := by
  rw [inOrder_string, inOrder_string, mergeSort_eq_of_perm h]

theorem textsInOrder_eq_of_perm {names names' : List String} (h : names.Perm names') :
    textsInOrder names = textsInOrder names' := by
  rw [textsInOrder_string, textsInOrder_string, mergeSort_eq_of_perm h]

end Name

/-! ## What is derived -/

/-- Names that are collected once each, and are the same, are the same up to the order. -/
theorem perm_of_nodup {names names' : List String} (h : names.Nodup) (h' : names'.Nodup)
    (hmem : ∀ n, n ∈ names ↔ n ∈ names') : names.Perm names' :=
  (List.perm_ext_iff_of_nodup h h').mpr hmem

namespace Block.Rearranges

variable {b b' : Block} {grants grants' : List String} (h : b.Rearranges b')
  (hgrants : ∀ g, g ∈ grants ↔ g ∈ grants')

include h hgrants

theorem reaches_iff {n : String} : b.Reaches grants n ↔ b'.Reaches grants' n :=
  ⟨Reached.mono (fun r hr => (h.rules r).mp hr) fun g hg => .grant ((hgrants g).mp hg),
    Reached.mono (fun r hr => (h.rules r).mpr hr) fun g hg => .grant ((hgrants g).mpr hg)⟩

theorem localRoles_perm : (b.derive grants).localRoles.Perm (b'.derive grants').localRoles := by
  refine perm_of_nodup (b.isSimple_derive grants).localRoles (b'.isSimple_derive grants').localRoles ?_
  intro n
  rw [b.mem_derive_localRoles, b'.mem_derive_localRoles, h.roles.mem_iff, h.reaches_iff hgrants]

theorem globalRoles_perm : (b.derive grants).globalRoles.Perm (b'.derive grants').globalRoles := by
  refine perm_of_nodup (b.isSimple_derive grants).globalRoles (b'.isSimple_derive grants').globalRoles ?_
  intro g
  simp only [b.mem_derive_globalRoles, b'.mem_derive_globalRoles, h.rules, h.reaches_iff hgrants]

theorem attributes_perm : (b.derive grants).attributes.Perm (b'.derive grants').attributes := by
  refine perm_of_nodup (b.isSimple_derive grants).attributes (b'.isSimple_derive grants').attributes ?_
  intro a
  simp only [b.mem_derive_attributes, b'.mem_derive_attributes, h.rules, h.reaches_iff hgrants]

theorem relations_perm :
    ((b.derive grants).related.map (·.1)).Perm ((b'.derive grants').related.map (·.1)) := by
  refine perm_of_nodup (b.isSimple_derive grants).relations (b'.isSimple_derive grants').relations ?_
  intro relation
  simp only [b.mem_derive_related, b'.mem_derive_related, h.rules, h.reaches_iff hgrants]

theorem requiredOn_perm (relation : String) :
    (b.requiredOn grants relation).Perm (b'.requiredOn grants' relation) := by
  have hnodup : (b.requiredOn grants relation).Nodup := (b.isSimple_derive grants).related relation
  have hnodup' : (b'.requiredOn grants' relation).Nodup := (b'.isSimple_derive grants').related relation
  refine perm_of_nodup hnodup hnodup' ?_
  intro m
  simp only [b.mem_requiredOn, b'.mem_requiredOn, h.rules, h.reaches_iff hgrants]

omit hgrants in
/-- Relations lead to the same types. -/
theorem related?_eq (hkeys : (b.relations.map (·.1)).Nodup) (relation : String) :
    b.related? relation = b'.related? relation := by
  unfold Block.related?
  rw [lookup_eq_of_perm relation hkeys h.relations]

end Block.Rearranges

namespace Policy

variable {p q : Policy} {facts : FactBook} {s : Subject}

/-! ## The clauses of one kind -/

theorem globalWays_congr {roles roles' : List String} (hactor : p.actorType = q.actorType)
    (h : roles.Perm roles') : p.globalWays facts s roles = q.globalWays facts s roles' := by
  unfold globalWays globalWay subjectLiteral isActor
  rw [Name.textsInOrder_eq_of_perm h, h.isEmpty_eq, hactor]

theorem localWays_congr {type : String} {roles roles' : List String} (hactor : p.actorType = q.actorType)
    (h : roles.Perm roles') : p.localWays facts s type roles = q.localWays facts s type roles' := by
  unfold localWays subjectLiteral isActor
  rw [Name.textsInOrder_eq_of_perm h, h.isEmpty_eq, hactor, globalWays_congr hactor h]

theorem relatedWays_congr {roles roles' : List String} (relation : String) (fact : Subquery) (inner : List Way)
    (h : roles.Perm roles') : relatedWays roles relation fact inner = relatedWays roles' relation fact inner := by
  unfold relatedWays
  rw [Name.textsInOrder_eq_of_perm h]

/-! ## The same goals -/

/-- Whether a goal is on a path depends on types and sets of grants. -/
theorem any_same_iff {path : List Goal} {goal : Goal} :
    path.any goal.same = true ↔ goal.key ∈ path.map Goal.key := by
  simp only [List.any_eq_true, List.mem_map, Goal.same_iff_key, eq_comm (a := goal.key)]

/-- The grants of a goal with the same key are the same. -/
theorem mem_grants_iff_of_key {goal goal' : Goal} (h : goal.key = goal'.key) (n : String) :
    n ∈ goal.grants ↔ n ∈ goal'.grants :=
  (Goal.same_iff.mp (Goal.same_iff_key.mpr h)).2 n

theorem type_eq_of_key {goal goal' : Goal} (h : goal.key = goal'.key) : goal.type = goal'.type :=
  congrArg Prod.fst h

namespace Rearranges

variable (h : p.Rearranges q)

include h

theorem exists_mem_right {b : Block} (hb : b ∈ p.blocks) : ∃ b' ∈ q.blocks, b.Rearranges b' := by
  obtain ⟨blocks, hperm, hsame⟩ := h.blocks
  obtain ⟨b', hb', hrearranges⟩ := exists_of_mem_right hsame.flip (hperm.mem_iff.mp hb)
  exact ⟨b', hb', hrearranges⟩

theorem exists_mem_left {b' : Block} (hb' : b' ∈ q.blocks) : ∃ b ∈ p.blocks, b.Rearranges b' := by
  obtain ⟨blocks, hperm, hsame⟩ := h.blocks
  obtain ⟨b, hb, hrearranges⟩ := exists_of_mem_right hsame hb'
  exact ⟨b, hperm.mem_iff.mpr hb, hrearranges⟩

theorem nodup_types (hp : p.IsKeyed) : (q.blocks.map (·.name)).Nodup := by
  obtain ⟨blocks, hperm, hsame⟩ := h.blocks
  have hnames : q.blocks.map (·.name) = blocks.map (·.name) :=
    map_eq_of_forall₂ hsame fun _ _ hb => hb.name.symm
  rw [hnames]
  exact (hperm.map _).nodup hp.types

theorem block?_eq_none {type : String} (hp : p.IsKeyed) (hb : p.block? type = none) : q.block? type = none := by
  cases hb' : q.block? type with
  | none => rfl
  | some b' =>
    obtain ⟨b, hmem, hrearranges⟩ := h.exists_mem_left (mem_of_block? hb')
    have hname : b.name = type := hrearranges.name.trans (name_of_block? hb')
    rw [← hname, block?_of_mem hp.types hmem] at hb
    cases hb

theorem exists_block? {type : String} {b : Block} (hp : p.IsKeyed) (hb : p.block? type = some b) :
    ∃ b', q.block? type = some b' ∧ b.Rearranges b' := by
  obtain ⟨b', hmem, hrearranges⟩ := h.exists_mem_right (mem_of_block? hb)
  have hname : b'.name = type := hrearranges.name.symm.trans (name_of_block? hb)
  exact ⟨b', hname ▸ block?_of_mem (h.nodup_types hp) hmem, hrearranges⟩

end Rearranges

/-! ## The same ways -/

/-- The goals along a relation are the same. -/
theorem key_goalAlong {b b' : Block} {goal goal' : Goal} (h : b.Rearranges b') (hgoal : goal.key = goal'.key)
    (hb : b ∈ p.blocks) (hb' : b' ∈ q.blocks) (relation other : String) :
    (p.goalAlong b goal relation other).key = (q.goalAlong b' goal' relation other).key := by
  refine Goal.same_iff_key.mp (Goal.same_iff.mpr ⟨rfl, ?_⟩)
  intro m
  simp only [mem_goalAlong hb, mem_goalAlong hb', h.rules, h.reaches_iff (mem_grants_iff_of_key hgoal)]

/-- The relations of a derivation come in the order of their names, each with the roles required on it. -/
theorem relatedInOrder_derive (b : Block) (grants : List String) :
    relatedInOrder (b.derive grants) =
      (Name.inOrder ((b.derive grants).related.map (·.1))).map
        (List.map fun relation => (relation, b.requiredOn grants relation)) := by
  unfold relatedInOrder
  cases Name.inOrder ((b.derive grants).related.map (·.1)) <;> rfl

/-- In two policies that differ only in how they are written down, the same goals have the same ways. -/
theorem waysTo_rearranged (hp : p.IsKeyed) (h : p.Rearranges q) {start start' goal goal' : Goal}
    {path path' : List Goal} (hmem : goal ∈ p.goals start) (hmem' : goal' ∈ q.goals start')
    (hgoal : goal.key = goal'.key) (hpath : path.map Goal.key = path'.map Goal.key) :
    p.waysTo facts s start path goal hmem = q.waysTo facts s start' path' goal' hmem' := by
  -- by induction on the goals of the first policy that are not on the path
  induction hsize : (p.unvisited start path).length using Nat.strongRecOn
    generalizing path path' goal goal' with
  | ind size ih =>
    have hvisited : path.any goal.same = path'.any goal'.same := by
      rw [Bool.eq_iff_iff, any_same_iff, any_same_iff, hgoal, hpath]
    cases hnew : path.any goal.same with
    | true => rw [waysTo_of_visited hnew, waysTo_of_visited (hvisited ▸ hnew)]
    | false =>
      have htype := type_eq_of_key hgoal
      cases hb : p.block? goal.type with
      | none =>
        rw [waysTo_of_undeclared hnew hb,
          waysTo_of_undeclared (hvisited ▸ hnew) (htype ▸ h.block?_eq_none hp hb), htype]
      | some b =>
        obtain ⟨b', hb', hrearranges⟩ := h.exists_block? hp hb
        obtain ⟨along, hnone, hsome, hways⟩ := exists_waysTo_eq facts s hmem hnew hb
        obtain ⟨along', hnone', hsome', hways'⟩ :=
          exists_waysTo_eq facts s hmem' (hvisited ▸ hnew) (htype ▸ hb')
        have hgrants := mem_grants_iff_of_key hgoal
        have hsmaller : (p.unvisited start (goal :: path)).length < size :=
          hsize ▸ length_unvisited_lt hmem hnew
        have hnext : (goal :: path).map Goal.key = (goal' :: path').map Goal.key := by
          rw [List.map_cons, List.map_cons, hgoal, hpath]
        -- relation by relation, both policies come to the same goal
        have halong : ∀ relation, along (relation, b.requiredOn goal.grants relation) =
            along' (relation, b'.requiredOn goal'.grants relation) := by
          intro relation
          have hrelated := hrearranges.related?_eq (hp.relations b (mem_of_block? hb)) relation
          cases hother : b.related? relation with
          | none => rw [hnone _ hother, hnone' _ (hrelated ▸ hother), htype]
          | some other =>
            obtain ⟨hnext₁, hways₁⟩ := hsome (relation, b.requiredOn goal.grants relation) other hother
            obtain ⟨hnext₂, hways₂⟩ :=
              hsome' (relation, b'.requiredOn goal'.grants relation) other (hrelated ▸ hother)
            have hkey : (p.relatedGoal other (b.requiredOn goal.grants relation)).key =
                (q.relatedGoal other (b'.requiredOn goal'.grants relation)).key :=
              key_goalAlong hrearranges hgoal (mem_of_block? hb) (mem_of_block? hb') relation other
            rw [hways₁, hways₂, htype, ih _ hsmaller hnext₁ hnext₂ hkey hnext rfl]
            simp only [relatedWays_congr _ _ _ (hrearranges.requiredOn_perm hgrants relation)]
        rw [hways, hways', htype, localWays_congr h.actorType (hrearranges.localRoles_perm hgrants),
          globalWays_congr h.actorType (hrearranges.globalRoles_perm hgrants),
          Name.inOrder_eq_of_perm (hrearranges.attributes_perm hgrants), relatedInOrder_derive,
          relatedInOrder_derive, Name.inOrder_eq_of_perm (hrearranges.relations_perm hgrants)]
        cases Name.inOrder ((b'.derive goal'.grants).related.map (·.1)) with
        | error f => rfl
        | ok relations =>
          have hrelated : (relations.map fun relation => (relation, b.requiredOn goal.grants relation)).mapM along =
              (relations.map fun relation => (relation, b'.requiredOn goal'.grants relation)).mapM along' := by
            rw [List.mapM_map, List.mapM_map]
            exact mapM_congr fun relation _ => halong relation
          simp only [Except.map, ok_bind, hrelated]

/-- What is compiled does not depend on how a policy is written down: on the order of its blocks and, within one, of
roles, permissions, relations and rules, on how often a rule is given, or on the order and repetition of the grants
asked for. The ways are the same list, labels and clauses alike, and on any column the condition is the same text;
where compiling one policy fails, compiling the other fails with the same fault. -/
theorem compiles_rearranged (hp : p.IsKeyed) (h : p.Rearranges q) {grants grants' : List String}
    (hgrants : ∀ g, g ∈ grants ↔ g ∈ grants') (facts : FactBook) (s : Subject) (type : String) :
    p.ways facts s type grants = q.ways facts s type grants' ∧
      ∀ (d : Dialect) (columnRef : Data),
        (do (← p.condition facts s type grants).forColumn d columnRef) =
          (do (← q.condition facts s type grants').forColumn d columnRef : Except Fault String) := by
  have hkey : (Goal.mk type grants.eraseDups).key = (Goal.mk type grants'.eraseDups).key := by
    refine Goal.same_iff_key.mp (Goal.same_iff.mpr ⟨rfl, ?_⟩)
    intro g
    simp only [List.mem_eraseDups, hgrants]
  have hways : p.ways facts s type grants = q.ways facts s type grants' := by
    rw [ways, ways, Name.requireKeys_string, Name.requireKeys_string]
    exact waysTo_rearranged hp h (p.start_mem_goals _) (q.start_mem_goals _) hkey rfl
  refine ⟨hways, ?_⟩
  intro d columnRef
  rw [condition, condition, hways]

end Policy

/-! ## Wards -/

namespace Wards

/-- Doctors may do what nurses may, and so may the auditors of the hospital; anybody may enter an open ward. -/
def ward : Block where
  name := "Ward"
  roles := ["doctor", "nurse"]
  permissions := ["enter", "read"]
  relations := [("hospital", "Hospital"), ("annex", "Hospital")]
  rules := [⟨"read", .role "nurse"⟩, ⟨"nurse", .role "doctor"⟩, ⟨"read", .roleOn "auditor" "hospital"⟩,
    ⟨"enter", .hasAttribute "open"⟩]

def hospital : Block where
  name := "Hospital"
  roles := ["auditor"]

def policy : Policy := ⟨[ward, hospital], .text "User"⟩

/-- The ward as another document has it: everything the other way round, and one rule given twice. -/
def turned : Block where
  name := "Ward"
  roles := ["nurse", "doctor"]
  permissions := ["read", "enter"]
  relations := [("annex", "Hospital"), ("hospital", "Hospital")]
  rules := ⟨"read", .role "nurse"⟩ :: ward.rules.reverse

def rearranged : Policy := ⟨[hospital, turned], .text "User"⟩

/-- A query for the columns of a table. -/
def query (table : String) (columns : List String) : FactQuery :=
  .selection ⟨table, columns.map fun c => ⟨c, .text, false⟩, none, false⟩

def facts : FactBook where
  roles := [(.text "Ward", query "ward_staff" ["user", "role", "ward"]),
    (.text "Hospital", query "hospital_staff" ["user", "role", "hospital"])]
  relations := [((.text "Ward", .text "hospital", .text "Hospital"), query "wards" ["name", "hospital"])]
  attributes := [((.text "open", .text "Ward"), query "open_wards" ["name"])]
  sqlTypes := [(.text "User", .text)]

def vera : Subject := ⟨.text "User", .text "vera"⟩

theorem sized_facts : facts.Sized where
  roles entry hentry := by
    obtain rfl | rfl : entry = _ ∨ entry = _ := by simpa [facts] using hentry
    · exact FactQuery.sized_selection rfl
    · exact FactQuery.sized_selection rfl
  globalRoles := by simp [facts]
  relations entry hentry := by
    obtain rfl := List.mem_singleton.mp hentry
    exact FactQuery.sized_selection rfl
  attributes entry hentry := by
    obtain rfl := List.mem_singleton.mp hentry
    exact FactQuery.sized_selection rfl

theorem isKeyed_policy : policy.IsKeyed where
  types := by decide
  relations := by decide

theorem rearranges_turned : ward.Rearranges turned where
  name := rfl
  roles := by decide
  permissions := by decide
  relations := by decide
  rules r := by
    simp only [turned, ward, List.mem_cons, List.mem_reverse]
    tauto

theorem rearranges_policy : policy.Rearranges rearranged where
  actorType := rfl
  blocks := ⟨[hospital, ward], by decide, .cons ⟨rfl, .refl _, .refl _, .refl _, fun _ => .rfl⟩
    (.cons rearranges_turned .nil)⟩

/-- The two documents give the same ways to read or enter a ward, and the same text for both. -/
theorem compiles_rearranged_ward :
    policy.IsKeyed ∧ policy.Rearranges rearranged ∧
      (∀ g, g ∈ ["read", "enter"] ↔ g ∈ ["enter", "read", "read"]) ∧
      ∃ ways, policy.ways facts vera "Ward" ["read", "enter"] = .ok ways ∧
        rearranged.ways facts vera "Ward" ["enter", "read", "read"] = .ok ways := by
  have hgrants : ∀ g, g ∈ ["read", "enter"] ↔ g ∈ ["enter", "read", "read"] := by
    intro g
    simp only [List.mem_cons, List.not_mem_nil, or_false]
    tauto
  have hactor : policy.isActor vera = true := by simp [Policy.isActor, policy, vera]
  have hvalid : policy.validate (some facts) = .ok () := by decide +kernel
  have hnone : policy.block? globalType = none := by decide
  have hglobal : facts.SuppliesGlobalRules policy := ⟨by simp [hnone], by simp [hnone]⟩
  have hfacts := Policy.supplies_of_validate isKeyed_policy.types rfl sized_facts hvalid hglobal
  have hward : policy.block? "Ward" = some ward := rfl
  obtain ⟨ways, hways⟩ := Policy.exists_waysTo_eq_ok (Policy.validate_none_of_validate hvalid) hfacts hactor
    (policy.start_mem_goals ⟨"Ward", ["read", "enter"].eraseDups⟩) hward
  have hcompiled : policy.ways facts vera "Ward" ["read", "enter"] = .ok ways := by
    rw [Policy.ways, Name.requireKeys_string, Outcome.ok_bind, hways]
  have hsame := Policy.compiles_rearranged isKeyed_policy rearranges_policy hgrants facts vera "Ward"
  exact ⟨isKeyed_policy, rearranges_policy, hgrants, ways, hcompiled, hsame.1 ▸ hcompiled⟩

end Wards

end RowGuard
