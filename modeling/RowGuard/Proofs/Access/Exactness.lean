import RowGuard.Evaluator.Local
import RowGuard.Proofs.Access.Supply
import RowGuard.Proofs.Records.Policy

/-!
# Conditions and grants

Where the relations of a policy do not lead back to a type, the condition for an action holds of exactly
the resources on which the subject holds the action. In general it holds of those on which the action has a
derivation that repeats no goal: compiling cuts a goal that is met again on the way to itself, although it
is then asked about another resource, and a role that is inherited along such a relation is lost. Folders in
folders are an example.
-/

namespace RowGuard.LocalEvaluator

open Outcome Policy

variable {e : LocalEvaluator} {config : Config} {s : Subject} {type action : String}

/-- The condition for a declared action is that of the policy. -/
theorem condition_of_declares (h : e.policy.declares type action = true) :
    e.condition config s (.text action) (.text type) = e.policy.condition e.facts s type [action] := by
  have hdeclared : e.declared? (.text action) (.text type) = .ok (some (action, type)) := by
    rw [declared?, FactBook.requireKey_of_isKey rfl, ok_bind]
    show Except.ok (if e.policy.declares type action then some (action, type) else none) = _
    rw [if_pos h]
  rw [condition, hdeclared, ok_bind]

/-- The condition for a declared action has the clauses of the ways to it. -/
theorem condition_of_waysTo (hdeclared : e.policy.declares type action = true) {ways : List Way}
    (hways : e.policy.waysTo e.facts s ⟨type, [action]⟩ [] ⟨type, [action]⟩
      (start_mem_goals e.policy _) = .ok ways) :
    e.condition config s (.text action) (.text type) = .ok (Condition.ofWays ways) := by
  rw [condition_of_declares hdeclared, Policy.condition, Policy.ways, Name.requireKeys_string,
    ok_bind]
  show (do pure (Condition.ofWays (← e.policy.waysTo e.facts s ⟨type, [action]⟩ []
    ⟨type, [action]⟩ _)) : Except Fault Condition) = _
  rw [hways]
  rfl

/-- A consistent policy compiles for every declared action, to a condition that holds where a trail
repeats no goal. -/
theorem exists_condition (hvalid : e.policy.validate none = .ok ())
    (hfacts : e.facts.Supplies e.policy) (hactor : e.policy.isActor s = true)
    (hdeclared : e.policy.declares type action = true) :
    ∃ c, e.condition config s (.text action) (.text type) = .ok c ∧
      ∀ db value x, Condition.holds db value x c = true ↔
        ∃ gs, e.policy.Trail (e.facts.evidence e.policy s db value) ⟨type, [action]⟩ x gs ∧
          FreshFrom [] gs := by
  have hblock : ∃ b, e.policy.block? type = some b := by
    unfold Policy.declares at hdeclared
    cases hb : e.policy.block? type with
    | none => simp [hb] at hdeclared
    | some b => exact ⟨b, rfl⟩
  obtain ⟨b, hb⟩ := hblock
  have hgoal := start_mem_goals e.policy ⟨type, [action]⟩
  obtain ⟨ways, hways⟩ :
      ∃ ways, e.policy.waysTo e.facts s ⟨type, [action]⟩ [] ⟨type, [action]⟩ hgoal = .ok ways :=
    exists_waysTo_eq_ok hvalid hfacts hactor hgoal hb
  refine ⟨Condition.ofWays ways, condition_of_waysTo hdeclared hways, ?_⟩
  intro db value x
  rw [Condition.holds_ofWays_iff]
  exact holds_waysTo_iff_exists_trail hways

/-- An action that only a role on the resource gives compiles to the test for that role. -/
theorem condition_of_role {b : Block} {role : String} {fact : Subquery}
    (hactor : e.policy.isActor s = true) (hdeclared : e.policy.declares type action = true)
    (htype : type ≠ globalType) (hb : e.policy.block? type = some b)
    (hlocal : (b.derive [action]).localRoles = [role]) (hrelated : (b.derive [action]).related = [])
    (hglobal : (b.derive [action]).globalRoles = [])
    (hattributes : (b.derive [action]).attributes = [])
    (hfact : e.facts.role e.policy.actorType (.text type) = .ok fact) :
    e.condition config s (.text action) (.text type) =
      .ok [.role fact (e.facts.actorLiteral e.policy s) [role]] := by
  have hnone : Name.inOrder ([] : List String) = .ok [] := by
    simp [Name.inOrder, Name.sorted?, Data.allComparable]
  have hrels : relatedInOrder (b.derive [action]) = .ok [] := by
    rw [relatedInOrder, hrelated, List.map_nil, hnone]
    rfl
  have hpath : ([] : List Goal).any (Goal.mk type [action]).same = false := rfl
  have hways : e.policy.waysTo e.facts s ⟨type, [action]⟩ [] ⟨type, [action]⟩
      (start_mem_goals e.policy _) = .ok [⟨"role " ++ listed [role] ++ " on " ++ type,
        .role fact (e.facts.actorLiteral e.policy s) [role]⟩] := by
    rw [waysTo_eq_ok_iff hpath hb]
    refine ⟨[_], [], [], [], [], [], ?_, ?_, hrels, .nil, ?_, rfl, rfl⟩
    · rw [hlocal]
      exact localWays_of_role hactor htype hfact
    · rw [hglobal]
      rfl
    · rw [hattributes, hnone]
  exact condition_of_waysTo hdeclared hways

/-- An action that only attributes give compiles to the tests for them, whoever the subject is. -/
theorem condition_of_attributes {b : Block} {names : List String} {ways : List Way}
    (hdeclared : e.policy.declares type action = true) (hb : e.policy.block? type = some b)
    (hlocal : (b.derive [action]).localRoles = []) (hrelated : (b.derive [action]).related = [])
    (hglobal : (b.derive [action]).globalRoles = [])
    (hnames : Name.inOrder (b.derive [action]).attributes = .ok names)
    (hways : names.mapM (attributeWay e.facts type) = .ok ways) :
    e.condition config s (.text action) (.text type) = .ok (Condition.ofWays ways) := by
  have hpath : ([] : List Goal).any (Goal.mk type [action]).same = false := rfl
  refine condition_of_waysTo hdeclared ((waysTo_eq_ok_iff hpath hb).mpr ?_)
  refine ⟨[], [], [], [], names, ways, ?_, ?_, ?_, .nil, hnames, hways, rfl⟩
  · rw [hlocal]
    rfl
  · rw [hglobal]
    rfl
  · rw [relatedInOrder, hrelated, List.map_nil, Name.inOrder_string, List.mergeSort_nil]
    rfl

/-- An action that only an attribute gives compiles to the test for it, whoever the subject is. -/
theorem condition_of_attribute {b : Block} {a : String} {fact : Subquery}
    (hdeclared : e.policy.declares type action = true) (hb : e.policy.block? type = some b)
    (hlocal : (b.derive [action]).localRoles = []) (hrelated : (b.derive [action]).related = [])
    (hglobal : (b.derive [action]).globalRoles = []) (hattributes : (b.derive [action]).attributes = [a])
    (hfact : e.facts.attr (.text a) (.text type) = .ok fact) :
    e.condition config s (.text action) (.text type) = .ok [.hasAttribute fact] := by
  have hnames : Name.inOrder (b.derive [action]).attributes = .ok [a] := by
    rw [hattributes, Name.inOrder_string, List.mergeSort_singleton]
  have hways : [a].mapM (attributeWay e.facts type) = .ok [⟨"is_" ++ a, .hasAttribute fact⟩] := by
    rw [List.mapM_cons, attributeWay_of_attr hfact]
    rfl
  exact condition_of_attributes hdeclared hb hlocal hrelated hglobal hnames hways

/-- Where relations do not lead back to a type, the condition for an action holds of exactly the
resources on which the subject holds the action. -/
theorem condition_holds_iff_holds (hvalid : e.policy.validate none = .ok ())
    (hacyclic : e.policy.Acyclic) (hfacts : e.facts.Supplies e.policy)
    (hactor : e.policy.isActor s = true) (hdeclared : e.policy.declares type action = true) :
    ∃ c, e.condition config s (.text action) (.text type) = .ok c ∧
      ∀ db value x, Condition.holds db value x c = true ↔
        e.policy.Holds (e.facts.evidence e.policy s db value) type x action := by
  obtain ⟨c, hc, hholds⟩ := exists_condition hvalid hfacts hactor hdeclared
  refine ⟨c, hc, ?_⟩
  intro db value x
  rw [hholds, holds_iff_exists_trail]
  refine exists_congr ?_
  intro gs
  refine and_iff_left_of_imp ?_
  intro htrail
  exact freshFrom_nil_iff.mpr (htrail.fresh_of_acyclic hacyclic)

/-- The evaluator of the records application. -/
def recordsEvaluator : LocalEvaluator where
  policy := Records.policy
  facts := Records.facts

def dave : Subject := ⟨.text "User", .text "dave"⟩

/-- On the records application a document can be deleted exactly by those who hold that on it. -/
theorem condition_holds_iff_holds_on_records :
    Records.policy.validate none = .ok () ∧ Records.policy.Acyclic ∧
      Records.facts.Supplies Records.policy ∧
      Records.policy.isActor dave = true ∧
      Records.policy.declares "Document" "delete" = true ∧
      ∃ c, recordsEvaluator.condition {} dave (.text "delete") (.text "Document") = .ok c ∧
        ∀ db value x, Condition.holds db value x c = true ↔
          Records.policy.Holds (Records.facts.evidence Records.policy dave db value) "Document" x
            "delete" := by
  have hactor : Records.policy.isActor dave = true := by simp [isActor, Records.policy, dave]
  exact ⟨Records.policy_validate, Records.policy_acyclic, Records.facts_supplies, hactor, by decide,
    condition_holds_iff_holds (e := recordsEvaluator) Records.policy_validate
      Records.policy_acyclic Records.facts_supplies hactor (by decide)⟩

/-! ## Relations that lead back to a type -/

/-- The condition for an action holds of the resources on which the subject has a derivation of the action
that repeats no goal; the subject holds the action on those on which there is any derivation. -/
theorem condition_holds_iff_fresh_trail (hvalid : e.policy.validate none = .ok ())
    (hfacts : e.facts.Supplies e.policy) (hactor : e.policy.isActor s = true)
    (hdeclared : e.policy.declares type action = true) :
    ∃ c, e.condition config s (.text action) (.text type) = .ok c ∧
      ∀ db value x,
        (Condition.holds db value x c = true ↔
          ∃ gs, e.policy.Trail (e.facts.evidence e.policy s db value) ⟨type, [action]⟩ x gs ∧
            gs.Pairwise fun earlier later => later.same earlier = false) ∧
        (e.policy.Holds (e.facts.evidence e.policy s db value) type x action ↔
          ∃ gs, e.policy.Trail (e.facts.evidence e.policy s db value) ⟨type, [action]⟩ x gs) := by
  obtain ⟨c, hc, hholds⟩ := exists_condition hvalid hfacts hactor hdeclared
  refine ⟨c, hc, fun db value x => ⟨?_, holds_iff_exists_trail⟩⟩
  rw [hholds]
  exact exists_congr fun gs => and_congr_right fun _ => freshFrom_nil_iff

end RowGuard.LocalEvaluator

namespace RowGuard.Folders

open Policy

/-- A folder's viewers are also the viewers of the folders in it. -/
def folderBlock : Block where
  name := "Folder"
  roles := ["viewer"]
  relations := [("parent", "Folder")]
  rules := [⟨"viewer", .roleOn "viewer" "parent"⟩]

def policy : Policy := ⟨[folderBlock], .text "User"⟩

def folders : Schema :=
  ⟨"folders", [{ name := "id", type := .text, isKey := true },
    { name := "parent", type := .text, nullable := true }]⟩

def folderRoles : Schema :=
  ⟨"folder_roles", [{ name := "actor", type := .text }, { name := "role", type := .text },
    { name := "folder", type := .text }]⟩

/-- The query that gives a folder's roles. -/
def roleQuery : Selection :=
  ⟨"folder_roles", [⟨"actor", .text, false⟩, ⟨"role", .text, false⟩, ⟨"folder", .text, false⟩],
    none, false⟩

/-- The query that gives a folder's parent. -/
def parentQuery : Selection :=
  ⟨"folders", [⟨"id", .text, false⟩, ⟨"parent", .text, false⟩], none, false⟩

def facts : FactBook where
  roles := [(.text "Folder", .selection roleQuery)]
  relations := [((.text "Folder", .text "parent", .text "Folder"), .selection parentQuery)]
  sqlTypes := [(.text "User", .text), (.text "Folder", .text)]

def evaluator : LocalEvaluator := { policy, facts }

def bob : Subject := ⟨.text "User", .text "bob"⟩

/-- Bob views the folder `b`, which contains the folder `a`. -/
def database : Database :=
  ⟨[⟨folders, [[.text "a", .text "b"], [.text "b", .null]]⟩,
    ⟨folderRoles, [[.text "bob", .text "viewer", .text "b"]]⟩]⟩

private theorem lookup_role : facts.roles.lookup (.text "Folder") = some (.selection roleQuery) := by
  simp [facts]

private theorem lookup_parent :
    facts.relations.lookup (.text "Folder", .text "parent", .text "Folder") =
      some (.selection parentQuery) := by
  simp [facts]

private theorem eq_of_mem {b : Block} (hb : b ∈ policy.blocks) : b = folderBlock := by
  simpa [policy] using hb

private theorem eq_of_rule {n m relation : String}
    (hr : ⟨n, .roleOn m relation⟩ ∈ folderBlock.rules) :
    n = "viewer" ∧ m = "viewer" ∧ relation = "parent" := by
  simpa [folderBlock] using hr

theorem facts_supplies : facts.Supplies policy where
  actorKey := rfl
  role b hb _ _ := by
    obtain rfl := eq_of_mem hb
    exact ⟨_, lookup_role, FactQuery.sized_selection rfl⟩
  globalRole h := by
    obtain ⟨b, hb, h⟩ := h
    obtain rfl := eq_of_mem hb
    rcases h with ⟨hname, _⟩ | ⟨n, g, hr⟩
    · exact absurd hname (by decide)
    · simp [folderBlock] at hr
  relation b hb n m relation other hr hother := by
    obtain rfl := eq_of_mem hb
    obtain ⟨rfl, rfl, rfl⟩ := eq_of_rule hr
    obtain rfl : "Folder" = other := Option.some.inj hother
    exact ⟨_, lookup_parent, FactQuery.sized_selection rfl⟩
  hasAttribute b hb n a hr := by
    obtain rfl := eq_of_mem hb
    simp [folderBlock] at hr

theorem isActor_bob : policy.isActor bob = true := by
  simp [isActor, policy, bob]

/-- The evidence that the database gives about Bob. -/
def evidence : Evidence := facts.evidence policy bob database Literal.bound

/-- The folder roles as a condition sees them. -/
def roleFact : Subquery := (FactQuery.selection roleQuery).toSubquery []

/-- The parents of folders as a condition sees them. -/
def parentFact : Subquery := (FactQuery.selection parentQuery).toSubquery []

theorem role_eq : facts.role policy.actorType (.text "Folder") = .ok roleFact :=
  FactBook.role_of_lookup rfl lookup_role (FactQuery.sized_selection rfl)

theorem relation_eq :
    facts.relation (.text "Folder") (.text "parent") (.text "Folder") = .ok parentFact :=
  FactBook.relation_of_lookup lookup_parent (FactQuery.sized_selection rfl)

theorem rows_roleFact :
    roleFact.rows database = [[⟨.text "bob", .text⟩, ⟨.text "viewer", .text⟩, ⟨.text "b", .text⟩]] := by
  decide

theorem rows_parentFact :
    parentFact.rows database =
      [[⟨.text "a", .text⟩, ⟨.text "b", .text⟩], [⟨.text "b", .text⟩, ⟨.null, .text⟩]] := by
  decide

theorem actorLiteral_bob : facts.actorLiteral policy bob = ⟨.text "bob", some .text⟩ := by
  simp [FactBook.actorLiteral, FactBook.idType, facts, policy, bob]

/-- A role on a folder is one that the database stores for it. -/
theorem hasRoleOn_iff (role : String) (x : Operand) :
    evidence.hasRoleOn "Folder" role x ↔
      facts.NamesActor policy bob Literal.bound roleFact role
        [⟨.text "bob", .text⟩, ⟨.text "viewer", .text⟩, ⟨.text "b", .text⟩] ∧
        x.eq ⟨.text "b", .text⟩ = true := by
  show (∃ fact, facts.role policy.actorType (.text "Folder") = .ok fact ∧ _) ↔ _
  simp only [role_eq, Except.ok.injEq, exists_eq_left', rows_roleFact, List.mem_singleton,
    exists_eq_left]
  rfl

/-- Bob views the folder `a`, for he views the one that contains it. -/
theorem holds_a : policy.Holds evidence "Folder" (.bare (.text "a")) "viewer" := by
  have hb : policy.block? "Folder" = some folderBlock := rfl
  have hcontains : evidence.isRelated "Folder" "parent" "Folder" (.bare (.text "a"))
      ⟨.text "b", .text⟩ :=
    ⟨parentFact, relation_eq, [⟨.text "a", .text⟩, ⟨.text "b", .text⟩], by simp [rows_parentFact],
      by decide, rfl⟩
  have hrole : evidence.hasRoleOn "Folder" "viewer" ⟨.text "b", .text⟩ :=
    (hasRoleOn_iff _ _).mpr ⟨⟨by rw [actorLiteral_bob]; decide, by decide⟩, by decide⟩
  exact .related hb List.mem_cons_self rfl hcontains (.role hb List.mem_cons_self hrole)

/-- No trail without repetition starts from the folder `a`. -/
theorem not_exists_fresh_trail_a :
    ¬ ∃ gs, policy.Trail evidence ⟨"Folder", ["viewer"]⟩ (.bare (.text "a")) gs ∧
      FreshFrom [] gs := by
  rw [Policy.exists_fresh_trail_iff rfl]
  rintro (hdirect | ⟨next, y, hstep, htrail⟩)
  · cases hdirect with
    | @role n b hb _ hrole hev =>
      obtain rfl := eq_of_mem (mem_of_block? hb)
      exact absurd ((hasRoleOn_iff _ _).mp hev).2 (by decide)
    | globalRole hb _ hr _ =>
      obtain rfl := eq_of_mem (mem_of_block? hb)
      simp [folderBlock] at hr
    | hasAttribute hb _ hr _ =>
      obtain rfl := eq_of_mem (mem_of_block? hb)
      simp [folderBlock] at hr
  · cases hstep with
    | along hb _ hr hother _ =>
      obtain rfl := eq_of_mem (mem_of_block? hb)
      obtain ⟨rfl, rfl, rfl⟩ := eq_of_rule hr
      obtain rfl := Option.some.inj hother
      have hsame : (policy.goalAlong folderBlock ⟨"Folder", ["viewer"]⟩ "parent" "Folder").same
          ⟨"Folder", ["viewer"]⟩ = true := by
        refine Goal.same_iff.mpr ⟨rfl, ?_⟩
        intro m
        rw [mem_goalAlong (mem_of_block? hb), List.mem_singleton]
        constructor
        · rintro ⟨n, _, hm⟩
          exact (eq_of_rule hm).2.1
        · rintro rfl
          exact ⟨"viewer", .grant List.mem_cons_self, List.mem_cons_self⟩
      exact Policy.not_exists_fresh_trail (by simp [hsame]) htrail

/-- Bob holds on the folder `a` what he holds on the one that contains it, but the condition that the
policy compiles to does not hold of it: the folder that contains it is asked about for the same goal. -/
theorem inherited_role_is_lost :
    policy.validate none = .ok () ∧ facts.Supplies policy ∧ policy.isActor bob = true ∧
      policy.declares "Folder" "viewer" = true ∧
      policy.Holds evidence "Folder" (.bare (.text "a")) "viewer" ∧
      ∃ c, evaluator.condition {} bob (.text "viewer") (.text "Folder") = .ok c ∧
        Condition.holds database Literal.bound (.bare (.text "a")) c = false := by
  have hvalid : policy.validate none = .ok () := by decide
  have hdeclared : policy.declares "Folder" "viewer" = true := by decide
  obtain ⟨c, hc, hholds⟩ := LocalEvaluator.exists_condition (e := evaluator) hvalid facts_supplies
    isActor_bob hdeclared
  refine ⟨hvalid, facts_supplies, isActor_bob, hdeclared, holds_a, c, hc, ?_⟩
  rw [Bool.eq_false_iff, ne_eq, hholds]
  exact not_exists_fresh_trail_a

/-- What the condition for viewing a folder holds of. -/
theorem viewer_condition_holds_iff_fresh_trail :
    policy.validate none = .ok () ∧ facts.Supplies policy ∧ policy.isActor bob = true ∧
      policy.declares "Folder" "viewer" = true ∧
      ∃ c, evaluator.condition {} bob (.text "viewer") (.text "Folder") = .ok c ∧
        ∀ db value x,
          (Condition.holds db value x c = true ↔
            ∃ gs, policy.Trail (facts.evidence policy bob db value) ⟨"Folder", ["viewer"]⟩ x gs ∧
              gs.Pairwise fun earlier later => later.same earlier = false) ∧
          (policy.Holds (facts.evidence policy bob db value) "Folder" x "viewer" ↔
            ∃ gs, policy.Trail (facts.evidence policy bob db value) ⟨"Folder", ["viewer"]⟩ x gs) :=
  have hvalid : policy.validate none = .ok () := by decide
  have hdeclared : policy.declares "Folder" "viewer" = true := by decide
  ⟨hvalid, facts_supplies, isActor_bob, hdeclared,
    LocalEvaluator.condition_holds_iff_fresh_trail (e := evaluator) hvalid facts_supplies isActor_bob
      hdeclared⟩

end RowGuard.Folders
