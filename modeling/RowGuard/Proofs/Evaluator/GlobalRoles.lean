import RowGuard.Proofs.Evaluator.Testing

/-!
# Roles on the system as a whole

A role on the system as a whole is consulted in two places: by rules of other types, which require it, and by a
check on the system itself. The rules look for an assignment of the role and for nothing else. The check derives
the role as it derives any other, by the rules of the global block as well. The two agree on a role that no rule of
the global block grants; where such rules require roles, the check finds everyone who has been assigned one of the
roles that lead to the role asked for (`LocalEvaluator.global_role_by_assignment`). `Club` is an example in which
they differ.
-/

namespace RowGuard

open Outcome

namespace Block

variable {b : Block} {g m : String}

/-- On the way to a role, the block's rules require roles of the block and nothing else. -/
def ByRoles (b : Block) (g : String) : Prop :=
  ∀ m requires, b.Reaches [g] m → ⟨m, requires⟩ ∈ b.rules → ∃ k, requires = .role k

/-- No rule of the block grants the role. -/
def NeverGrants (b : Block) (g : String) : Prop := ∀ requires, ⟨g, requires⟩ ∉ b.rules

/-- A role that no rule grants is reached from itself only. -/
theorem NeverGrants.eq_of_reaches (h : b.NeverGrants g) (hm : b.Reaches [g] m) : m = g := by
  induction hm with
  | grant hm => simpa using hm
  | implied _ hrule ih =>
    subst ih
    exact absurd hrule (h _)

theorem NeverGrants.byRoles (h : b.NeverGrants g) : b.ByRoles g := by
  intro m requires hm hrule
  obtain rfl := h.eq_of_reaches hm
  exact absurd hrule (h _)

end Block

/-- The condition grants what it is for by a rule that requires the global role, and the subject has the role by
the facts that the condition asks. -/
def Condition.GrantsThrough (db : Database) (value : Literal → Value) (x : Operand) (g : String) (c : Condition) :
    Prop :=
  ∃ fact subject roles, .globalRole fact subject roles ∈ c ∧ g ∈ roles ∧
    Clause.holds db value x (.globalRole fact subject [g]) = true

namespace Policy

variable {p : Policy} {facts : FactBook} {s : Subject} {ev : Evidence} {g : String}

theorem globalBlock?_eq (p : Policy) : p.globalBlock? = p.block? globalType := by
  unfold globalBlock? block?
  congr 1
  funext b
  simp only [Block.isGlobal, Name.isText_string, beq_eq_decide]

/-- In a consistent policy a rule grants a declared name, and a global role that it requires is one of the global
block. -/
theorem exists_globalBlock_of_validate (h : p.validate none = .ok ()) {b : Block} (hb : b ∈ p.blocks) {n : String}
    (hrule : ⟨n, .globalRole g⟩ ∈ b.rules) :
    b.declares n = true ∧ ∃ gb, p.block? globalType = some gb ∧ g ∈ gb.roles := by
  have hproblems := ((p.validate_eq_ok_iff none).mp h).2
  simp only [problems, List.append_nil, List.flatMap_eq_nil_iff, blockProblems, List.append_eq_nil_iff]
    at hproblems
  obtain ⟨hgrant, hrequires⟩ := List.append_eq_nil_iff.mp ((hproblems b hb).2 _ hrule)
  refine ⟨by simpa using hgrant, ?_⟩
  rw [globalBlock?_eq] at hrequires
  cases hgb : p.block? globalType with
  | none => simp [hgb] at hrequires
  | some gb => exact ⟨gb, rfl, by simpa [hgb] using hrequires⟩

/-- The clause for one global role asks whether the subject has been assigned it. -/
theorem holds_globalRole_iff {db : Database} {value : Literal → Value} {x : Operand} {fact : Subquery}
    (hfact : facts.globalRole p.actorType = .ok fact) :
    Clause.holds db value x (.globalRole fact (facts.actorLiteral p s) [g]) = true ↔
      (facts.evidence p s db value).hasGlobalRole g := by
  simp only [Clause.holds, List.any_eq_true, Clause.actorMatches_iff, FactBook.evidence, hfact, Except.ok.injEq,
    exists_eq_left', List.mem_singleton, exists_eq_left]

/-- Where global roles count, one clause asks for all of them. -/
theorem exists_globalRole_of_globalWays {roles : List String} {ways : List Way} (hg : g ∈ roles)
    (h : p.globalWays facts s roles = .ok ways) :
    ∃ w ∈ ways, ∃ fact names, facts.globalRole p.actorType = .ok fact ∧ g ∈ names ∧
      w.clause = .globalRole fact (facts.actorLiteral p s) names := by
  unfold globalWays globalWay at h
  obtain ⟨texts, htexts, hmem⟩ := Name.exists_textsInOrder_string roles
  rw [if_neg (by simpa using List.ne_nil_of_mem hg), htexts, ok_bind] at h
  simp only [bind_eq_ok_iff, subjectLiteral_eq_ok_iff, pure_eq_ok, Except.ok.injEq] at h
  obtain ⟨_, ⟨fact, hfact, _, ⟨_, rfl⟩, rfl⟩, rfl⟩ := h
  exact ⟨_, List.mem_cons_self, fact, texts, hfact, (hmem g).mpr hg, rfl⟩

/-- A role of the global block for which its rules require roles only is held by those who have been assigned a
role that leads to it. -/
theorem exists_trail_globalRole_iff {gb : Block} (hgb : p.block? globalType = some gb) (hroles : gb.ByRoles g)
    (y : Operand) :
    (∃ gs, p.Trail ev ⟨globalType, [g]⟩ y gs ∧ FreshFrom [] gs) ↔
      ∃ m ∈ gb.roles, gb.Reaches [g] m ∧ ev.hasGlobalRole m := by
  rw [exists_fresh_trail_iff rfl]
  constructor
  · rintro (hdirect | ⟨next, z, hstep, _⟩)
    · cases hdirect with
      | @role m b' hb' hm hrole hev =>
        obtain rfl : gb = b' := Option.some.inj (hgb.symm.trans hb')
        exact ⟨m, hrole, hm, by simpa [Evidence.hasRoleOn] using hev⟩
      | @globalRole m k b' hb' hm hrule _ =>
        obtain rfl : gb = b' := Option.some.inj (hgb.symm.trans hb')
        obtain ⟨_, hk⟩ := hroles _ _ hm hrule
        cases hk
      | @hasAttribute m a b' hb' hm hrule _ =>
        obtain rfl : gb = b' := Option.some.inj (hgb.symm.trans hb')
        obtain ⟨_, ha⟩ := hroles _ _ hm hrule
        cases ha
    · cases hstep with
      | @along m k relation other y b' hb' hm hrule _ _ =>
        obtain rfl : gb = b' := Option.some.inj (hgb.symm.trans hb')
        obtain ⟨_, hk⟩ := hroles _ _ hm hrule
        cases hk
  · rintro ⟨m, hm, hreaches, hev⟩
    exact .inl (.role hgb hreaches hm (by simpa [Evidence.hasRoleOn] using hev))

end Policy

namespace LocalEvaluator

variable {e : LocalEvaluator} {config : Config} {s : Subject} {type n g : String} {c : Condition}

/-- What a condition for a name of a block grants by the block's rules that require a global role is what an
assignment of the role gives. -/
theorem grantsThrough_iff {b : Block} (hb : e.policy.block? type = some b) (hdeclared : b.declares n = true)
    (hrule : ⟨n, .globalRole g⟩ ∈ b.rules) (hc : e.condition config s (.text n) (.text type) = .ok c)
    {db : Database} {value : Literal → Value} {x : Operand} :
    c.GrantsThrough db value x g ↔ (e.facts.evidence e.policy s db value).hasGlobalRole g := by
  have hnamed : e.policy.declares type n = true := by simpa [Policy.declares, hb] using hdeclared
  constructor
  · rintro ⟨fact, subject, roles, hclause, _, hholds⟩
    cases makes_of_condition hnamed hc _ hclause with
    | globalRole hfact => exact (Policy.holds_globalRole_iff hfact).mp hholds
  · intro hassigned
    rw [condition_of_declares hnamed, Policy.condition, bind_eq_ok_iff] at hc
    obtain ⟨ways, hways, hc⟩ := hc
    obtain rfl := Except.ok.inj hc
    rw [Policy.ways, Name.requireKeys_string, ok_bind] at hways
    have hpath : ([] : List Goal).any (Goal.mk type [n].eraseDups).same = false := rfl
    obtain ⟨locals, globals, rels, related, attributes, attributeWays, _, hglobals, _, _, _, _, rfl⟩ :=
      (Policy.waysTo_eq_ok_iff hpath hb).mp hways
    have hasks : g ∈ (b.derive [n].eraseDups).globalRoles :=
      (b.mem_derive_globalRoles _).mpr ⟨n, .grant (by simp), hrule⟩
    obtain ⟨w, hw, fact, names, hfact, hnames, hclause⟩ := Policy.exists_globalRole_of_globalWays hasks hglobals
    have hmem : w.clause ∈ Condition.ofWays (locals ++ globals ++ related.flatten ++ attributeWays) := by
      refine List.mem_map_of_mem ?_
      simp [hw]
    rw [hclause] at hmem
    exact ⟨fact, _, names, hmem, hnames, (Policy.holds_globalRole_iff hfact).mpr hassigned⟩

/-- A rule that requires a global role grants by an assignment of the role: on every resource to those who have
been assigned it, and to nobody else. A check of the role on the system itself grants at least as much. Where the
rules of the global block that lead to the role require roles, it grants the role to those who have been assigned
one of these; where none of its rules grants the role, that is the same. -/
theorem global_role_by_assignment {b : Block} (hvalid : e.policy.validate none = .ok ())
    (hfacts : e.facts.Supplies e.policy) (hactor : e.policy.isActor s = true)
    (hb : e.policy.block? type = some b) (hrule : ⟨n, .globalRole g⟩ ∈ b.rules) :
    ∃ c cg gb, e.condition config s (.text n) (.text type) = .ok c ∧
      e.condition config s (.text g) (.text globalType) = .ok cg ∧ e.policy.block? globalType = some gb ∧
      (∀ db value x, c.GrantsThrough db value x g ↔ (e.facts.evidence e.policy s db value).hasGlobalRole g) ∧
      (∀ db value x y, c.GrantsThrough db value x g →
        Condition.holds db value x c = true ∧ Condition.holds db value y cg = true) ∧
      (gb.ByRoles g → ∀ db value y, Condition.holds db value y cg = true ↔
        ∃ m ∈ gb.roles, gb.Reaches [g] m ∧ (e.facts.evidence e.policy s db value).hasGlobalRole m) ∧
      (gb.NeverGrants g → ∀ db value x y, c.GrantsThrough db value x g ↔ Condition.holds db value y cg = true) ∧
      ∀ bind sys db, bind.Sees sys db → bind = .connection ∨ e.hasEngine = true → e.facts.Askable e.policy db →
        (e.facts.actorLiteral e.policy s).Binds → (e.target .global).Binds →
        e.answer bind sys s (.text g) .global =
          .ok (Condition.holds db Literal.bound (.bare (e.target .global).bound) cg) := by
  obtain ⟨hn, gb, hgb, hg⟩ := Policy.exists_globalBlock_of_validate hvalid (Policy.mem_of_block? hb) hrule
  have hnamed : e.policy.declares type n = true := by simpa [Policy.declares, hb] using hn
  have hrole : e.policy.declares globalType g = true := by simp [Policy.declares, hgb, Block.declares, hg]
  obtain ⟨c, hc, hholds⟩ := @exists_condition e config s type n hvalid hfacts hactor hnamed
  obtain ⟨cg, hcg, hgholds⟩ := @exists_condition e config s globalType g hvalid hfacts hactor hrole
  have hthrough : ∀ db value x, c.GrantsThrough db value x g ↔
      (e.facts.evidence e.policy s db value).hasGlobalRole g := fun _ _ _ => grantsThrough_iff hb hn hrule hc
  have hderived : gb.ByRoles g → ∀ db value y, Condition.holds db value y cg = true ↔
      ∃ m ∈ gb.roles, gb.Reaches [g] m ∧ (e.facts.evidence e.policy s db value).hasGlobalRole m :=
    fun hroles db value y => (hgholds db value y).trans (Policy.exists_trail_globalRole_iff hgb hroles y)
  refine ⟨c, cg, gb, hc, hcg, hgb, hthrough, ?_, hderived, ?_, ?_⟩
  · intro db value x y hgrants
    have hassigned := (hthrough db value x).mp hgrants
    have hhere : e.policy.Direct (e.facts.evidence e.policy s db value) ⟨type, [n]⟩ x :=
      .globalRole hb (.grant List.mem_cons_self) hrule hassigned
    have hthere : e.policy.Direct (e.facts.evidence e.policy s db value) ⟨globalType, [g]⟩ y :=
      .role hgb (.grant List.mem_cons_self) hg (by simpa [Evidence.hasRoleOn] using hassigned)
    exact ⟨(hholds db value x).mpr ⟨_, .here hhere, rfl, trivial⟩,
      (hgholds db value y).mpr ⟨_, .here hthere, rfl, trivial⟩⟩
  · intro hnever db value x y
    rw [hthrough, hderived hnever.byRoles]
    constructor
    · exact fun hassigned => ⟨g, hg, .grant List.mem_cons_self, hassigned⟩
    · rintro ⟨m, _, hm, hassigned⟩
      exact hnever.eq_of_reaches hm ▸ hassigned
  · intro bind sys db hsees hengine hask hsubject htarget
    have hcg' : e.condition (e.configIn sys) s (.text g) Resource.global.type = .ok cg :=
      (condition_of_declares hrole).trans ((condition_of_declares hrole).symm.trans hcg)
    exact answer_eq hsees hengine hcg' (Condition.testable
      (fun clause hclause => (makes_of_condition hrole hcg clause hclause).testable hask hsubject) htarget)

end LocalEvaluator

end RowGuard

/-! ### In a club -/

namespace RowGuard.Club

/-- Super users are administrators. -/
def globalBlock : Block where
  name := globalType
  roles := ["admin", "super"]
  rules := [⟨"admin", .role "super"⟩]

/-- Documents are read by administrators. -/
def docBlock : Block where
  name := "Doc"
  permissions := ["read"]
  rules := [⟨"read", .globalRole "admin"⟩]

def policy : Policy := ⟨[globalBlock, docBlock], .text "User"⟩

def roleTable : Schema :=
  ⟨"global_roles", [{ name := "actor", type := .text }, { name := "role", type := .text }]⟩

/-- The query that gives the roles on the system as a whole. -/
def roleQuery : Selection := ⟨"global_roles", [⟨"actor", .text, false⟩, ⟨"role", .text, false⟩], none, false⟩

def facts : FactBook where
  globalRoles := some (.selection roleQuery)
  sqlTypes := [(.text "User", .text)]

def evaluator : LocalEvaluator := { policy, facts }

def bob : Subject := ⟨.text "User", .text "bob"⟩

/-- Bob is a super user. -/
def database : Database := ⟨[⟨roleTable, [[.text "bob", .text "super"]]⟩]⟩

def system : System := { disk := database }

theorem facts_supplies : facts.Supplies policy where
  actorKey := rfl
  role b hb hname hroles := by
    simp only [policy, List.mem_cons, List.not_mem_nil, or_false] at hb
    rcases hb with rfl | rfl
    · exact absurd rfl hname
    · exact absurd rfl hroles
  globalRole _ := ⟨_, rfl, FactQuery.sized_selection rfl⟩
  relation b hb n m relation other hr _ := by
    simp only [policy, List.mem_cons, List.not_mem_nil, or_false] at hb
    rcases hb with rfl | rfl <;> simp [globalBlock, docBlock] at hr
  hasAttribute b hb n a hr := by
    simp only [policy, List.mem_cons, List.not_mem_nil, or_false] at hb
    rcases hb with rfl | rfl <;> simp [globalBlock, docBlock] at hr

theorem isActor_bob : policy.isActor bob = true := by simp [Policy.isActor, policy, bob]

/-- What reading a document and being an administrator are compiled to. -/
theorem global_role_by_assignment_admin :
    policy.validate none = .ok () ∧ facts.Supplies policy ∧ policy.isActor bob = true ∧
      policy.block? "Doc" = some docBlock ∧ ⟨"read", .globalRole "admin"⟩ ∈ docBlock.rules ∧
      ∃ c cg gb, evaluator.condition {} bob (.text "read") (.text "Doc") = .ok c ∧
        evaluator.condition {} bob (.text "admin") (.text globalType) = .ok cg ∧
        policy.block? globalType = some gb ∧
        (∀ db value x, c.GrantsThrough db value x "admin" ↔ (facts.evidence policy bob db value).hasGlobalRole "admin") ∧
        (∀ db value x y, c.GrantsThrough db value x "admin" →
          Condition.holds db value x c = true ∧ Condition.holds db value y cg = true) ∧
        (gb.ByRoles "admin" → ∀ db value y, Condition.holds db value y cg = true ↔
          ∃ m ∈ gb.roles, gb.Reaches ["admin"] m ∧ (facts.evidence policy bob db value).hasGlobalRole m) ∧
        (gb.NeverGrants "admin" → ∀ db value x y,
          c.GrantsThrough db value x "admin" ↔ Condition.holds db value y cg = true) ∧
        ∀ bind sys db, bind.Sees sys db → bind = .connection ∨ evaluator.hasEngine = true →
          facts.Askable policy db → (facts.actorLiteral policy bob).Binds → (evaluator.target .global).Binds →
          evaluator.answer bind sys bob (.text "admin") .global =
            .ok (Condition.holds db Literal.bound (.bare (evaluator.target .global).bound) cg) :=
  have hvalid : policy.validate none = .ok () := by decide
  ⟨hvalid, facts_supplies, isActor_bob, rfl, List.mem_cons_self,
    LocalEvaluator.global_role_by_assignment (e := evaluator) (b := docBlock) hvalid facts_supplies isActor_bob rfl
      List.mem_cons_self⟩

/-- The roles on the system as a whole, as a condition sees them. -/
def roleFact : Subquery := (FactQuery.selection roleQuery).toSubquery []

theorem globalRole_eq : facts.globalRole policy.actorType = .ok roleFact :=
  FactBook.globalRole_of_some rfl rfl (FactQuery.sized_selection rfl)

/-- The evidence that the database gives about Bob. -/
def evidence : Evidence := facts.evidence policy bob database Literal.bound

theorem actorLiteral_bob : facts.actorLiteral policy bob = ⟨.text "bob", some .text⟩ := by
  simp [FactBook.actorLiteral, FactBook.idType, facts, policy, bob]

/-- The only role that the database gives Bob is that of a super user. -/
theorem hasGlobalRole_iff (role : String) :
    evidence.hasGlobalRole role ↔ facts.NamesActor policy bob Literal.bound roleFact role
      [⟨.text "bob", .text⟩, ⟨.text "super", .text⟩] := by
  have hrows : roleFact.rows database = [[⟨.text "bob", .text⟩, ⟨.text "super", .text⟩]] := by decide
  show (∃ fact, facts.globalRole policy.actorType = .ok fact ∧ _) ↔ _
  simp only [globalRole_eq, Except.ok.injEq, exists_eq_left', hrows, List.mem_singleton, exists_eq_left]

theorem facts_askable : facts.Askable policy database where
  role _ _ hfact := by simpa [facts] using FactBook.exists_lookup_of_role hfact
  globalRole fact hfact := by
    obtain rfl := Except.ok.inj (globalRole_eq.symm.trans hfact)
    exact ⟨⟨by decide, rfl, by decide, by simp [Condition.filterLiteral?, roleFact, FactQuery.toSubquery, roleQuery]⟩,
      fun _ => ⟨rfl, rfl⟩⟩
  relation _ _ _ _ hfact := by simpa [facts] using FactBook.exists_lookup_of_relation hfact
  hasAttribute _ _ _ hfact := by simpa [facts] using FactBook.exists_lookup_of_attr hfact

/-- Every identity is bound as the text that it is. -/
theorem target_binds (type id : String) : (evaluator.target ⟨.text type, .text id⟩).Binds := by
  unfold LocalEvaluator.target
  cases h : evaluator.facts.idType (.text type) with
  | none => exact ⟨rfl, rfl⟩
  | some t =>
    obtain ⟨_, hmem⟩ := FactBook.lookup_mem h
    obtain rfl : t = .text := by simpa [evaluator, facts] using (Prod.mk.inj (List.mem_singleton.mp hmem)).2
    exact ⟨rfl, rfl⟩

/-- What a check in a scope of its own answers about Bob. -/
theorem answer_iff (type action id : String) (hdeclared : policy.declares type action = true) :
    ∃ b, evaluator.answer (.engine true) system bob (.text action) ⟨.text type, .text id⟩ = .ok b ∧
      (b = true ↔ ∃ gs, policy.Trail evidence ⟨type, [action]⟩
        (.bare (evaluator.target ⟨.text type, .text id⟩).bound) gs ∧ Policy.FreshFrom [] gs) := by
  obtain ⟨c, hc, hholds⟩ := @LocalEvaluator.exists_condition evaluator (evaluator.configIn system) bob type action
    (by decide) facts_supplies isActor_bob hdeclared
  have hbinds : (facts.actorLiteral policy bob).Binds := by
    rw [actorLiteral_bob]
    exact ⟨rfl, rfl⟩
  have htest := Condition.testable (fun clause hclause =>
    (LocalEvaluator.makes_of_condition (e := evaluator) hdeclared hc clause hclause).testable facts_askable hbinds)
    (target_binds type id)
  have hsees : (Bind.engine true).Sees system database := ⟨rfl, rfl⟩
  exact ⟨_, LocalEvaluator.answer_eq hsees (.inr rfl) hc htest, hholds _ _ _⟩

/-- Bob is an administrator, for he is a super user, but he does not read what administrators read. -/
theorem admin_does_not_read :
    policy.validate none = .ok () ∧ facts.Supplies policy ∧ policy.isActor bob = true ∧
      evaluator.answer (.engine true) system bob (.text "admin") .global = .ok true ∧
      evaluator.answer (.engine true) system bob (.text "read") ⟨.text "Doc", .text "d"⟩ = .ok false := by
  have hsuper : evidence.hasGlobalRole "super" :=
    (hasGlobalRole_iff _).mpr ⟨by rw [actorLiteral_bob]; decide, by decide⟩
  have hadmin : ¬ evidence.hasGlobalRole "admin" :=
    fun h => absurd ((hasGlobalRole_iff _).mp h).2 (by decide)
  refine ⟨by decide, facts_supplies, isActor_bob, ?_, ?_⟩
  · obtain ⟨b, hb, hiff⟩ := answer_iff globalType "admin" "" (by decide)
    have hreaches : globalBlock.Reaches ["admin"] "super" := .implied (.grant List.mem_cons_self) List.mem_cons_self
    have hdirect : ∀ y, policy.Direct evidence ⟨globalType, ["admin"]⟩ y := fun _ =>
      .role (b := globalBlock) rfl hreaches (by decide) (by simpa [Evidence.hasRoleOn] using hsuper)
    obtain rfl : b = true := hiff.mpr ⟨_, .here (hdirect _), rfl, trivial⟩
    exact hb
  · obtain ⟨b, hb, hiff⟩ := answer_iff "Doc" "read" "d" (by decide)
    have hb' : b = false := by
      rw [Bool.eq_false_iff, ne_eq, hiff]
      rintro ⟨gs, htrail, _⟩
      obtain ⟨a, ha, hheld⟩ := htrail.holds
      obtain rfl := List.mem_singleton.mp ha
      obtain ⟨requires, hrequires, hmet⟩ :=
        (Policy.holds_permission_iff (b := docBlock) rfl (by decide)).mp hheld
      obtain rfl : requires = .globalRole "admin" := by simpa [Policy.requiredFor, docBlock] using hrequires
      exact hadmin hmet
    exact hb' ▸ hb

end RowGuard.Club
