import RowGuard.Policy.Coverage
import RowGuard.Proofs.Access.Strangers
import RowGuard.Proofs.Access.Validated
import RowGuard.Proofs.Evaluator.Verdict

/-!
# Permissions that no rule grants

A permission is uncovered where no rule is used to derive it. Then only one way to it is left: a permission that is
declared as a role as well is held by those the role is assigned to.

* `Block.derive_of_rules_eq_nil`: without rules a derivation has the name itself, as a role, and nothing else.
* `LocalEvaluator.Denies`: every check is answered with no, and the fragment admits no row.
* `LocalEvaluator.uncovered_given`: an uncovered permission is denied to everybody unless it is a role, and given to
  those the role is assigned to if it is one.
-/

namespace RowGuard

open Outcome Policy

/-! ## Derivations without rules -/

/-- A derivation uses no rule exactly if no rule grants the name. -/
theorem Block.derive_rules_eq_nil_iff {b : Block} {n : String} :
    (b.derive [n]).rules = [] ↔ ∀ r ∈ b.rules, r.grant ≠ n := by
  constructor
  · rintro h r hr rfl
    have hused : r ∈ (b.derive [r.grant]).rules := (b.mem_derive_rules _).mpr ⟨hr, .grant List.mem_cons_self⟩
    rw [h] at hused
    cases hused
  · intro h
    have hreached : ∀ {m}, b.Reaches [n] m → m = n := by
      intro m hm
      induction hm with
      | grant hm => exact List.mem_singleton.mp hm
      | implied _ hr ih => exact absurd ih (h _ hr)
    refine List.eq_nil_iff_forall_not_mem.mpr fun r hr => ?_
    obtain ⟨hr, hgrant⟩ := (b.mem_derive_rules _).mp hr
    exact h r hr (hreached hgrant)

theorem Block.derive_of_rules_eq_nil {b : Block} {n : String} (h : (b.derive [n]).rules = []) :
    b.derive [n] = ⟨b.name, if n ∈ b.roles then [n] else [], [], [], [], []⟩ := by
  -- the closure ends with the name it starts from
  have hgranting : Derivation.granting n b.rules = [] := by
    rw [Block.derive, List.reverse_singleton, Derivation.close] at h
    exact (List.append_eq_nil_iff.mp h).1
  have hrequired : Derivation.requiredHere n b.rules = [] := by
    rw [Derivation.requiredHere, hgranting]
    rfl
  have hroles : ([n].filter b.roles.contains).eraseDups = if n ∈ b.roles then [n] else [] := by
    by_cases hn : n ∈ b.roles <;> simp [hn, List.eraseDups_cons]
  rw [Block.derive_of_requiredHere hrequired, hgranting]
  exact congrArg (fun roles => Derivation.mk b.name roles [] [] [] []) hroles

namespace Policy

variable {p : Policy}

/-- The uncovered permissions are those that a block declares and no rule of it grants. -/
theorem mem_uncovered_iff {c : Coverage} :
    c ∈ p.uncovered ↔ ∃ b ∈ p.blocks, ∃ permission ∈ b.permissions,
      (∀ r ∈ b.rules, r.grant ≠ permission) ∧ c = ⟨b.name, permission, []⟩ := by
  simp only [uncovered, coverage, blocksByName, List.mem_filter, List.mem_flatMap, List.mem_map, List.mem_mergeSort,
    List.isEmpty_iff, ← Block.derive_rules_eq_nil_iff]
  constructor
  · rintro ⟨⟨b, hb, permission, hpermission, rfl⟩, hrules⟩
    exact ⟨b, hb, permission, hpermission, hrules, congrArg (Coverage.mk b.name permission) hrules⟩
  · rintro ⟨b, hb, permission, hpermission, hrules, rfl⟩
    exact ⟨⟨b, hb, permission, hpermission, by rw [hrules]⟩, rfl⟩

/-- An uncovered permission is declared in the block of its type, and its derivation uses no rule. -/
theorem exists_block_of_uncovered (hdistinct : (p.blocks.map (·.name)).Nodup) {c : Coverage} (hc : c ∈ p.uncovered) :
    ∃ b, p.block? c.resourceType = some b ∧ c.permission ∈ b.permissions ∧ (b.derive [c.permission]).rules = [] := by
  obtain ⟨b, hb, permission, hpermission, hrules, rfl⟩ := mem_uncovered_iff.mp hc
  exact ⟨b, block?_of_mem hdistinct hb, hpermission, Block.derive_rules_eq_nil_iff.mpr hrules⟩

/-- A declared role can be asked for on its type, given the facts that validation demands. -/
theorem exists_localWays_of_validate {facts : FactBook} {s : Subject} (hkey : p.actorType.isKey = true)
    (hsized : facts.Sized) (hvalid : p.validate (some facts) = .ok ()) (hactor : p.isActor s = true) {b : Block}
    (hb : b ∈ p.blocks) {role : String} (hrole : role ∈ b.roles) :
    ∃ ways, p.localWays facts s b.name [role] = .ok ways := by
  have hroles : b.roles ≠ [] := List.ne_nil_of_mem hrole
  -- roles of the global type are had without a resource, from a fact of their own
  by_cases hname : b.name = globalType
  · obtain ⟨q, hq⟩ := exists_globalRoles_of_validate hvalid hb hname hroles
    have hfact := FactBook.globalRole_of_some hkey hq (hsized.globalRoles q hq)
    obtain ⟨texts, htexts, _⟩ := Name.exists_textsInOrder_string [role]
    have hsubject := subjectLiteral_eq_ok_iff.mpr ⟨hactor, (rfl : facts.actorLiteral p s = _)⟩
    unfold localWays globalWays
    rw [if_neg (by simp), if_pos (by simpa using hname), if_neg (by simp), htexts, ok_bind, globalWay, hfact, ok_bind,
      hsubject]
    exact ⟨_, rfl⟩
  · obtain ⟨q, hq⟩ := exists_roles_of_validate hvalid hb hname hroles
    obtain ⟨_, hmem⟩ := FactBook.lookup_mem hq
    have hfact := FactBook.role_of_lookup hkey hq (hsized.roles _ hmem)
    exact ⟨_, localWays_of_role hactor hname hfact⟩

end Policy

namespace LocalEvaluator

variable {e : LocalEvaluator} {s : Subject} {type action : String}

/-! ## Derivations without rules, compiled -/

/-- What no rule grants compiles to what asking for its own role compiles to. -/
theorem condition_of_rules_eq_nil {b : Block} {config : Config} {ways : List Way}
    (hb : e.policy.block? type = some b) (hdeclared : e.policy.declares type action = true)
    (hrules : (b.derive [action]).rules = [])
    (hways : e.policy.localWays e.facts s type (if action ∈ b.roles then [action] else []) = .ok ways) :
    e.condition config s (.text action) (.text type) = .ok (Condition.ofWays ways) := by
  have hpath : ([] : List Goal).any (Goal.mk type [action]).same = false := rfl
  refine condition_of_waysTo hdeclared ((waysTo_eq_ok_iff hpath hb).mpr ?_)
  have hnone : Name.inOrder ([] : List String) = .ok [] := by
    simp [Name.inOrder, Name.sorted?, Data.allComparable]
  simp only [Block.derive_of_rules_eq_nil hrules]
  refine ⟨ways, [], [], [], [], [], hways, rfl, ?_, .nil, hnone, rfl, by simp⟩
  rw [relatedInOrder, List.map_nil, hnone]
  rfl

/-- The action is denied to the subject on every resource of the type. -/
structure Denies (e : LocalEvaluator) (s : Subject) (action type : String) : Prop where
  /-- Every check is answered with no, wherever it is asked and whatever is there. -/
  check : ∀ {bind sys db} {r : Resource}, r.type = .text type → Bind.Sees bind sys db →
    (bind = .connection ∨ e.hasEngine = true) → e.answer bind sys s (.text action) r = .ok false
  /-- The fragment is the constant false, and it admits no row. -/
  compile : ∀ columnRef sys, ∃ sys' fragment,
    e.compile s (.text action) (.text type) columnRef sys = (.ok sys.fragments.all.size, sys') ∧
      sys'.fragments.all = sys.fragments.all.push fragment ∧
      fragment.sql = .text (Sql.boolLiteral e.dialect false) ∧
      ∀ db schema identity row, fragment.admits db schema identity row = false ∧
        fragment.grants db schema identity row = false

theorem denies_of_nil (h : ∀ config, e.condition config s (.text action) (.text type) = .ok []) :
    e.Denies s action type where
  check {bind sys db r} htype hsees hengine := by
    rw [answer_eq_ok_iff hsees]
    refine ⟨hengine, [], htype ▸ h _, verdict_eq_ok_iff.mpr ⟨⟨rfl, rfl, rfl, rfl, rfl⟩, rfl⟩⟩
  compile columnRef sys := exists_compile_of_nil (h _) columnRef

/-- What is given of a permission that no rule grants: nothing, to anybody, unless it is a role of its type as well; and
in a validated policy it is then held exactly where the role is assigned. -/
theorem uncovered_given {blocks : List Block} {actorType : Data} {c : Coverage}
    (hp : ofBlocks blocks actorType = .ok e.policy) (hc : c ∈ e.policy.uncovered) :
    (c.permission ∉ e.policy.rolesOf c.resourceType → ∀ s, e.Denies s c.permission c.resourceType) ∧
      (e.policy.actorType.isKey = true → e.facts.Sized → e.policy.validate (some e.facts) = .ok () →
        ∀ s, e.policy.isActor s = true → ∀ config, ∃ condition,
          e.condition config s (.text c.permission) (.text c.resourceType) = .ok condition ∧
            ∀ db value x, Condition.holds db value x condition = true ↔
              c.permission ∈ e.policy.rolesOf c.resourceType ∧
                (e.facts.evidence e.policy s db value).hasRoleOn c.resourceType c.permission x) := by
  obtain ⟨b, hb, hpermission, hrules⟩ := exists_block_of_uncovered (nodup_of_ofBlocks hp) hc
  have hroles : e.policy.rolesOf c.resourceType = b.roles := by rw [rolesOf, hb]; rfl
  have hdeclared : e.policy.declares c.resourceType c.permission = true := by
    simp [declares, hb, Block.declares, hpermission]
  rw [hroles]
  refine ⟨?_, ?_⟩
  · intro hrole s
    refine denies_of_nil fun config => ?_
    exact condition_of_rules_eq_nil hb hdeclared hrules (by rw [if_neg hrole]; rfl)
  · intro hkey hsized hvalid s hactor config
    obtain ⟨ways, hways⟩ : ∃ ways, e.policy.localWays e.facts s c.resourceType
        (if c.permission ∈ b.roles then [c.permission] else []) = .ok ways := by
      by_cases hrole : c.permission ∈ b.roles
      · rw [if_pos hrole, ← name_of_block? hb]
        exact exists_localWays_of_validate hkey hsized hvalid hactor (mem_of_block? hb) hrole
      · rw [if_neg hrole]
        exact ⟨[], rfl⟩
    refine ⟨_, condition_of_rules_eq_nil hb hdeclared hrules hways, ?_⟩
    intro db value x
    rw [Condition.holds_ofWays_iff, holds_localWays_iff hways]
    by_cases hrole : c.permission ∈ b.roles <;> simp [hrole]

end LocalEvaluator

/-! ## Reports -/

namespace Reports

/-- Readers read reports, nobody archives them, and being a reader is declared as a permission too. -/
def reportBlock : Block where
  name := "Report"
  roles := ["reader"]
  permissions := ["read", "archive", "reader"]
  rules := [⟨"read", .role "reader"⟩]

def policy : Policy := ⟨[reportBlock], .text "User"⟩

/-- The query that gives the readers of reports. -/
def readerQuery : Selection :=
  ⟨"readers", [⟨"actor", .text, false⟩, ⟨"role", .text, false⟩, ⟨"report", .text, false⟩], none, false⟩

def facts : FactBook where
  roles := [(.text "Report", .selection readerQuery)]
  sqlTypes := [(.text "Report", .text), (.text "User", .text)]

def evaluator : LocalEvaluator := { policy, facts }

def bob : Subject := ⟨.text "User", .text "bob"⟩

def readers : Schema where
  name := "readers"
  columns := [{ name := "actor", type := .text }, { name := "role", type := .text },
    { name := "report", type := .text }]

/-- Bob is a reader of the report `r`. -/
def database : Database := ⟨[⟨readers, [[.text "bob", .text "reader", .text "r"]]⟩]⟩

def system : System := { disk := database }

theorem ofBlocks_eq : ofBlocks [reportBlock] (.text "User") = .ok policy := by decide

theorem sized_facts : facts.Sized where
  roles entry hentry := by
    obtain rfl := List.mem_singleton.mp hentry
    exact FactQuery.sized_selection rfl
  globalRoles := by simp [facts]
  relations := by simp [facts]
  attributes := by simp [facts]

theorem validate_facts : policy.validate (some facts) = .ok () := by decide +kernel

theorem isActor_bob : policy.isActor bob = true := by simp [isActor, policy, bob]

theorem uncovered_archive : ⟨"Report", "archive", []⟩ ∈ policy.uncovered :=
  mem_uncovered_iff.mpr ⟨reportBlock, List.mem_cons_self, "archive", by decide, by decide, rfl⟩

theorem uncovered_reader : ⟨"Report", "reader", []⟩ ∈ policy.uncovered :=
  mem_uncovered_iff.mpr ⟨reportBlock, List.mem_cons_self, "reader", by decide, by decide, rfl⟩

/-- Nobody archives reports. -/
theorem archive_is_denied :
    ofBlocks [reportBlock] (.text "User") = .ok policy ∧ ⟨"Report", "archive", []⟩ ∈ policy.uncovered ∧
      policy.actorType.isKey = true ∧ facts.Sized ∧ policy.validate (some facts) = .ok () ∧
      policy.isActor bob = true ∧ "archive" ∉ policy.rolesOf "Report" ∧
      evaluator.Denies bob "archive" "Report" ∧
      ∃ condition, evaluator.condition {} bob (.text "archive") (.text "Report") = .ok condition ∧
        Condition.holds database Literal.bound (.bare (.text "r")) condition = false := by
  have hrole : "archive" ∉ policy.rolesOf "Report" := by decide
  obtain ⟨hdenied, hheld⟩ := LocalEvaluator.uncovered_given (e := evaluator) ofBlocks_eq uncovered_archive
  refine ⟨ofBlocks_eq, uncovered_archive, rfl, sized_facts, validate_facts, isActor_bob, hrole, hdenied hrole bob, ?_⟩
  obtain ⟨condition, hcondition, hholds⟩ := hheld rfl sized_facts validate_facts bob isActor_bob {}
  refine ⟨condition, hcondition, ?_⟩
  rw [Bool.eq_false_iff]
  intro h
  exact hrole ((hholds _ _ _).mp h).1

/-- The readers of reports, as a condition sees them. -/
def readerFact : Subquery := (FactQuery.selection readerQuery).toSubquery [some .text, some .string, some .text]

theorem role_eq : facts.role policy.actorType (.text "Report") = .ok readerFact := by
  rw [FactBook.role_of_lookup rfl (q := .selection readerQuery) (by simp [facts]) (FactQuery.sized_selection rfl)]
  simp [readerFact, FactBook.idType, facts, policy, List.lookup_cons]

theorem actorLiteral_bob : facts.actorLiteral policy bob = ⟨.text "bob", some .text⟩ := by
  simp [FactBook.actorLiteral, FactBook.idType, facts, policy, bob, List.lookup_cons]

/-- Being a reader is uncovered, and Bob is one, though the policy is validated. -/
theorem uncovered_reader_is_granted :
    ofBlocks [reportBlock] (.text "User") = .ok policy ∧ facts.Sized ∧ policy.validate (some facts) = .ok () ∧
      policy.isActor bob = true ∧ ⟨"Report", "reader", []⟩ ∈ policy.uncovered ∧
      (evaluator.check false bob (.text "reader") ⟨.text "Report", .text "r"⟩ system).1 = .ok true := by
  refine ⟨ofBlocks_eq, sized_facts, validate_facts, isActor_bob, uncovered_reader, ?_⟩
  have hderive : reportBlock.derive ["reader"] = ⟨"Report", ["reader"], [], [], [], []⟩ := by
    rw [Block.derive_of_rules_eq_nil (Block.derive_rules_eq_nil_iff.mpr (by decide))]
    rfl
  have hcondition : evaluator.condition (evaluator.configIn system) bob (.text "reader") (.text "Report") =
      .ok [.role readerFact (facts.actorLiteral policy bob) ["reader"]] :=
    LocalEvaluator.condition_of_role (b := reportBlock) isActor_bob (by decide) (by decide) rfl (by rw [hderive])
      (by rw [hderive]) (by rw [hderive]) (by rw [hderive]) role_eq
  rw [actorLiteral_bob] at hcondition
  have htarget : evaluator.target ⟨.text "Report", .text "r"⟩ = ⟨.text "r", some .text⟩ := by
    simp [LocalEvaluator.target, evaluator, FactBook.idType, facts]
  have htest : LocalEvaluator.Testable [.role readerFact ⟨.text "bob", some .text⟩ ["reader"]]
      ⟨.text "r", some .text⟩ database :=
    ⟨by decide, by decide, by decide, by decide, by decide⟩
  have hsees : Bind.Sees (.engine true) system database := ⟨rfl, rfl⟩
  have hanswer := LocalEvaluator.answer_eq (r := ⟨.text "Report", .text "r"⟩) hsees (.inr rfl) hcondition
    (htarget ▸ htest)
  rw [htarget] at hanswer
  exact hanswer.trans (congrArg Except.ok (by decide))

end Reports

end RowGuard
