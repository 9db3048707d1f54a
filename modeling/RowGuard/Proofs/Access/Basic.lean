import Mathlib
import RowGuard.Condition.Compile
import RowGuard.Condition.Meaning
import RowGuard.Proofs.Policy.Derivation

/-!
# Holding a grant

What a policy grants, said without conditions: `Policy.Holds` is the least relation closed under what the
facts attest (`Evidence`) and under the policy's rules. The derivation of a grant passes from goal to goal
along relations, which is a `Policy.Trail`; a grant is held exactly when there is a trail from it
(`exists_holds_iff_exists_trail`).

* `Holds`: the declarative meaning, one constructor for each kind of requirement.
* `Trail`: the goals that a derivation comes by, each with the resource it is about.
* `Acyclic`: no type is reached from itself along relations. A trail then repeats no goal
  (`Trail.fresh_of_acyclic`).
-/

namespace RowGuard

/-- What the facts attest about one subject. A resource is given by its identity. -/
structure Evidence where
  /-- The subject has the role on the resource of the type. -/
  hasRole : (type role : String) → (x : Operand) → Prop
  /-- The subject has the role on the system as a whole. -/
  hasGlobalRole : (role : String) → Prop
  /-- The resource of the first type is related to that of the second. -/
  isRelated : (type relation related : String) → (x y : Operand) → Prop
  /-- The resource of the type has the attribute. -/
  hasAttribute : (attr type : String) → (x : Operand) → Prop

namespace Evidence

/-- A role on a resource; one on the global type is a role on the system as a whole. -/
def hasRoleOn (ev : Evidence) (type role : String) (x : Operand) : Prop :=
  if type = globalType then ev.hasGlobalRole role else ev.hasRole type role x

end Evidence

namespace FactBook

variable (facts : FactBook) (p : Policy) (s : Subject) (db : Database) (value : Literal → Value)

/-- The subject's identity, of the type that the book gives to actors. -/
def actorLiteral : Literal := ⟨s.id, facts.idType p.actorType⟩

/-- Whether a row of a fact query is about the subject and the role. -/
def NamesActor (fact : Subquery) (role : String) (row : List Operand) : Prop :=
  (operandAt row 0).eq (.bare (value (facts.actorLiteral p s))) = true ∧
    (operandAt row 1).eq (.bare (value ⟨.text role, fact.comparedTypeAt 1 (.text role)⟩)) = true

instance (fact : Subquery) (role : String) (row : List Operand) :
    Decidable (facts.NamesActor p s value fact role row) :=
  inferInstanceAs (Decidable (_ ∧ _))

/-- What the rows of the fact queries attest about a subject of the policy's actor type. -/
def evidence : Evidence where
  hasRole type role x := ∃ fact, facts.role p.actorType (.text type) = .ok fact ∧
    ∃ row ∈ fact.rows db, facts.NamesActor p s value fact role row ∧
      x.eq (operandAt row 2) = true
  hasGlobalRole role := ∃ fact, facts.globalRole p.actorType = .ok fact ∧
    ∃ row ∈ fact.rows db, facts.NamesActor p s value fact role row
  isRelated type relation related x y := ∃ fact,
    facts.relation (.text type) (.text relation) (.text related) = .ok fact ∧
      ∃ row ∈ fact.rows db, x.eq (operandAt row 0) = true ∧ y = operandAt row 1
  hasAttribute attr type x := ∃ fact, facts.attr (.text attr) (.text type) = .ok fact ∧
    ∃ row ∈ fact.rows db, x.eq (operandAt row 0) = true

end FactBook

/-- Goals are the same when their types are and their grants are as sets. -/
theorem Goal.same_iff {g h : Goal} :
    g.same h = true ↔ g.type = h.type ∧ ∀ n, n ∈ g.grants ↔ n ∈ h.grants := by
  simp only [Goal.same, Bool.and_eq_true, beq_iff_eq, List.all_eq_true, List.contains_iff_mem,
    and_assoc]
  refine and_congr_right ?_
  intro _
  constructor
  · intro h n
    exact ⟨h.1 n, h.2 n⟩
  · intro hn
    exact ⟨fun n => (hn n).mp, fun n => (hn n).mpr⟩

namespace Policy

variable (p : Policy) (ev : Evidence)

/-- The subject holds a role or permission on a resource: the least relation that the facts and the
rules are closed under. -/
inductive Holds : (type : String) → (x : Operand) → (name : String) → Prop
  /-- A declared role is assigned. -/
  | role {type x n b} : p.block? type = some b → n ∈ b.roles → ev.hasRoleOn type n x → Holds type x n
  /-- A rule passes the grant on from a role on the same resource. -/
  | implied {type x n m b} : p.block? type = some b → ⟨n, .role m⟩ ∈ b.rules → Holds type x m →
      Holds type x n
  /-- A rule passes the grant on from a role on a related resource. -/
  | related {type x n m relation other y b} : p.block? type = some b →
      ⟨n, .roleOn m relation⟩ ∈ b.rules → b.related? relation = some other →
      ev.isRelated type relation other x y → Holds other y m → Holds type x n
  /-- A rule grants it to those with a global role. -/
  | globalRole {type x n g b} : p.block? type = some b → ⟨n, .globalRole g⟩ ∈ b.rules →
      ev.hasGlobalRole g → Holds type x n
  /-- A rule grants it on resources with an attribute. -/
  | hasAttribute {type x n a b} : p.block? type = some b → ⟨n, .hasAttribute a⟩ ∈ b.rules →
      ev.hasAttribute a type x → Holds type x n

/-- The goal is reached on the resource itself, without another resource. -/
inductive Direct (goal : Goal) (x : Operand) : Prop
  | role {n b} : p.block? goal.type = some b → b.Reaches goal.grants n → n ∈ b.roles →
      ev.hasRoleOn goal.type n x → Direct goal x
  | globalRole {n g b} : p.block? goal.type = some b → b.Reaches goal.grants n →
      ⟨n, .globalRole g⟩ ∈ b.rules → ev.hasGlobalRole g → Direct goal x
  | hasAttribute {n a b} : p.block? goal.type = some b → b.Reaches goal.grants n →
      ⟨n, .hasAttribute a⟩ ∈ b.rules → ev.hasAttribute a goal.type x → Direct goal x

/-- The goal on a related resource that a relation turns a goal into: to hold one of the roles that the
rules require on it. -/
def goalAlong (b : Block) (goal : Goal) (relation other : String) : Goal :=
  p.relatedGoal other (b.requiredOn goal.grants relation)

/-- A goal on one resource leads to a goal on another that it is related to. -/
inductive LeadsTo (goal : Goal) (x : Operand) : Goal → Operand → Prop
  | along {n m relation other y b} : p.block? goal.type = some b → b.Reaches goal.grants n →
      ⟨n, .roleOn m relation⟩ ∈ b.rules → b.related? relation = some other →
      ev.isRelated goal.type relation other x y →
      LeadsTo goal x (p.goalAlong b goal relation other) y

/-- The goals that a derivation comes by, from the goal asked for to one that is reached on the resource
itself. -/
inductive Trail : Goal → Operand → List Goal → Prop
  | here {goal x} : p.Direct ev goal x → Trail goal x [goal]
  | step {goal x next y gs} : p.LeadsTo ev goal x next y → Trail next y gs →
      Trail goal x (goal :: gs)

/-- A declared relation leads from one type to another. -/
def Relates (type other : String) : Prop :=
  ∃ b relation, p.block? type = some b ∧ b.related? relation = some other

/-- No type is reached from itself along declared relations. -/
def Acyclic : Prop := ∀ type, ¬ Relation.TransGen p.Relates type type

/-- No goal of the list is the same as one before it or as one of the path. -/
def FreshFrom (path : List Goal) : List Goal → Prop
  | [] => True
  | goal :: gs => path.any goal.same = false ∧ FreshFrom (goal :: path) gs

variable {p ev}

/-- In a policy whose types are distinct, each block is that of its type. -/
theorem block?_of_mem (h : (p.blocks.map (·.name)).Nodup) {b : Block} (hb : b ∈ p.blocks) :
    p.block? b.name = some b := by
  cases hfound : p.block? b.name with
  | none => simpa using List.find?_eq_none.mp hfound b hb
  | some b' =>
    rw [List.inj_on_of_nodup_map h (mem_of_block? hfound) hb (name_of_block? hfound)]

/-- What a rule of the block requires is met on the resource. -/
def Meets (p : Policy) (ev : Evidence) (b : Block) (type : String) (x : Operand) : Requirement String → Prop
  | .role m => p.Holds ev type x m
  | .roleOn m relation => ∃ other y, b.related? relation = some other ∧
      ev.isRelated type relation other x y ∧ p.Holds ev other y m
  | .globalRole g => ev.hasGlobalRole g
  | .hasAttribute a => ev.hasAttribute a type x

/-- The requirements of the rules that grant a name. -/
def requiredFor (b : Block) (n : String) : List (Requirement String) :=
  (b.rules.filter fun r => r.grant == n).map (·.requires)

/-- A name is held because it is assigned as a role or because a requirement for it is met. -/
theorem holds_iff {b : Block} {type n : String} {x : Operand} (hb : p.block? type = some b) :
    p.Holds ev type x n ↔
      (n ∈ b.roles ∧ ev.hasRoleOn type n x) ∨ ∃ requires ∈ requiredFor b n, p.Meets ev b type x requires := by
  have hrequired : ∀ requires, requires ∈ requiredFor b n ↔ ⟨n, requires⟩ ∈ b.rules := by
    intro requires
    simp only [requiredFor, List.mem_map, List.mem_filter, beq_iff_eq]
    constructor
    · rintro ⟨r, ⟨hr, rfl⟩, rfl⟩
      exact hr
    · intro hr
      exact ⟨_, ⟨hr, rfl⟩, rfl⟩
  simp only [hrequired]
  constructor
  · intro h
    cases h with
    | @role _ _ _ b' hb' hrole hev =>
      obtain rfl : b = b' := Option.some.inj (hb.symm.trans hb')
      exact .inl ⟨hrole, hev⟩
    | @implied _ _ _ m b' hb' hr hm =>
      obtain rfl : b = b' := Option.some.inj (hb.symm.trans hb')
      exact .inr ⟨_, hr, hm⟩
    | @related _ _ _ m relation other y b' hb' hr hother hrel hm =>
      obtain rfl : b = b' := Option.some.inj (hb.symm.trans hb')
      exact .inr ⟨_, hr, other, y, hother, hrel, hm⟩
    | @globalRole _ _ _ g b' hb' hr hev =>
      obtain rfl : b = b' := Option.some.inj (hb.symm.trans hb')
      exact .inr ⟨_, hr, hev⟩
    | @hasAttribute _ _ _ a b' hb' hr hev =>
      obtain rfl : b = b' := Option.some.inj (hb.symm.trans hb')
      exact .inr ⟨_, hr, hev⟩
  · rintro (⟨hrole, hev⟩ | ⟨requires, hr, hmet⟩)
    · exact .role hb hrole hev
    · cases requires with
      | role m => exact .implied hb hr hmet
      | roleOn m relation =>
        obtain ⟨other, y, hother, hrel, hm⟩ := hmet
        exact .related hb hr hother hrel hm
      | globalRole g => exact .globalRole hb hr hmet
      | hasAttribute a => exact .hasAttribute hb hr hmet

/-- A role is held because it is assigned or because a requirement for it is met. -/
theorem holds_role_iff {b : Block} {type n : String} {x : Operand} (hb : p.block? type = some b)
    (hn : n ∈ b.roles) : p.Holds ev type x n ↔
      ev.hasRoleOn type n x ∨ ∃ requires ∈ requiredFor b n, p.Meets ev b type x requires := by
  rw [holds_iff hb, and_iff_right hn]

/-- A permission is held because a requirement for it is met. -/
theorem holds_permission_iff {b : Block} {type n : String} {x : Operand} (hb : p.block? type = some b)
    (hn : n ∉ b.roles) : p.Holds ev type x n ↔
      ∃ requires ∈ requiredFor b n, p.Meets ev b type x requires := by
  rw [holds_iff hb, or_iff_right fun h => hn h.1]

/-- A permission that one role gives is held exactly with the role. -/
theorem holds_permission_of_role {b : Block} {type n m : String} {x : Operand} (hb : p.block? type = some b)
    (hn : n ∉ b.roles) (hrequired : requiredFor b n = [.role m]) :
    p.Holds ev type x n ↔ p.Holds ev type x m := by
  rw [holds_permission_iff hb hn, hrequired]
  simp [Meets]

theorem mem_relatedRoles {b : Block} (hb : b ∈ p.blocks) {n m relation : String}
    (hr : ⟨n, .roleOn m relation⟩ ∈ b.rules) : m ∈ p.relatedRoles := by
  rw [relatedRoles, List.mem_eraseDups]
  exact List.mem_flatMap.mpr ⟨b, hb, List.mem_filterMap.mpr ⟨_, hr, rfl⟩⟩

/-- The goal along a relation asks for exactly the roles that the reached rules require on it. -/
theorem mem_goalAlong {b : Block} (hb : b ∈ p.blocks) {goal : Goal} {relation other m : String} :
    m ∈ (p.goalAlong b goal relation other).grants ↔
      ∃ n, b.Reaches goal.grants n ∧ ⟨n, .roleOn m relation⟩ ∈ b.rules := by
  simp only [goalAlong, relatedGoal, List.mem_filter, List.contains_iff_mem, b.mem_requiredOn]
  constructor
  · exact fun h => h.2
  · rintro ⟨n, hn, hr⟩
    exact ⟨mem_relatedRoles hb hr, n, hn, hr⟩

/-- A name that is reached from some grants and held makes one of the grants held. -/
theorem Holds.of_reaches {b : Block} {type n : String} {x : Operand} {grants : List String}
    (hb : p.block? type = some b) (hn : b.Reaches grants n) (h : p.Holds ev type x n) :
    ∃ a ∈ grants, p.Holds ev type x a := by
  induction hn with
  | grant ha => exact ⟨_, ha, h⟩
  | implied _ hr ih => exact ih (.implied hb hr h)

theorem Direct.holds {goal : Goal} {x : Operand} (h : p.Direct ev goal x) :
    ∃ a ∈ goal.grants, p.Holds ev goal.type x a := by
  cases h with
  | role hb hn hrole hev => exact Holds.of_reaches hb hn (.role hb hrole hev)
  | globalRole hb hn hr hev => exact Holds.of_reaches hb hn (.globalRole hb hr hev)
  | hasAttribute hb hn hr hev => exact Holds.of_reaches hb hn (.hasAttribute hb hr hev)

/-- A trail from a goal is a derivation of one of its grants. -/
theorem Trail.holds {goal : Goal} {x : Operand} {gs : List Goal} (h : p.Trail ev goal x gs) :
    ∃ a ∈ goal.grants, p.Holds ev goal.type x a := by
  induction h with
  | here h => exact h.holds
  | step hstep _ ih =>
    cases hstep with
    | along hb _ _ hrel hev =>
      obtain ⟨m, hm, hholds⟩ := ih
      obtain ⟨n, hn, hr⟩ := (mem_goalAlong (mem_of_block? hb)).mp hm
      exact Holds.of_reaches hb hn (.related hb hr hrel hev hholds)

/-- A derivation of a name is a trail from every goal whose grants reach the name. -/
theorem Holds.exists_trail {type n : String} {x : Operand} (h : p.Holds ev type x n)
    (grants : List String) (hn : ∀ b, p.block? type = some b → b.Reaches grants n) :
    ∃ gs, p.Trail ev ⟨type, grants⟩ x gs := by
  induction h generalizing grants with
  | role hb hrole hev => exact ⟨_, .here (.role hb (hn _ hb) hrole hev)⟩
  | implied hb hr _ ih =>
    refine ih grants ?_
    intro b' hb'
    obtain rfl : _ = b' := Option.some.inj (hb.symm.trans hb')
    exact (hn _ hb).implied hr
  | @related type x n m relation other y b hb hr hrel hev _ ih =>
    have hnext : m ∈ (p.goalAlong b ⟨type, grants⟩ relation other).grants :=
      (mem_goalAlong (mem_of_block? hb)).mpr ⟨_, hn _ hb, hr⟩
    obtain ⟨gs, hgs⟩ := ih _ fun _ _ => .grant hnext
    exact ⟨_, .step (.along hb (hn _ hb) hr hrel hev) hgs⟩
  | globalRole hb hr hev => exact ⟨_, .here (.globalRole hb (hn _ hb) hr hev)⟩
  | hasAttribute hb hr hev => exact ⟨_, .here (.hasAttribute hb (hn _ hb) hr hev)⟩

/-- One of a goal's grants is held exactly when there is a trail from the goal. -/
theorem exists_holds_iff_exists_trail {goal : Goal} {x : Operand} :
    (∃ a ∈ goal.grants, p.Holds ev goal.type x a) ↔ ∃ gs, p.Trail ev goal x gs := by
  constructor
  · rintro ⟨a, ha, h⟩
    exact h.exists_trail goal.grants fun _ _ => .grant ha
  · rintro ⟨gs, h⟩
    exact h.holds

/-- A name is held exactly when there is a trail from the goal of holding it. -/
theorem holds_iff_exists_trail {type n : String} {x : Operand} :
    p.Holds ev type x n ↔ ∃ gs, p.Trail ev ⟨type, [n]⟩ x gs := by
  rw [← exists_holds_iff_exists_trail]
  simp

/-! ## Trails without repetition -/

theorem freshFrom_iff {path gs : List Goal} :
    FreshFrom path gs ↔
      (∀ g ∈ gs, ∀ h ∈ path, g.same h = false) ∧ gs.Pairwise fun h g => g.same h = false := by
  induction gs generalizing path with
  | nil => simp [FreshFrom]
  | cons goal gs ih =>
    simp only [FreshFrom, ih, List.any_eq_false, List.mem_cons, forall_eq_or_imp,
      List.pairwise_cons, Bool.not_eq_true, forall_and]
    constructor
    · rintro ⟨hgoal, ⟨hself, hpath⟩, hgs⟩
      exact ⟨⟨hgoal, hpath⟩, hself, hgs⟩
    · rintro ⟨⟨hgoal, hpath⟩, hself, hgs⟩
      exact ⟨hgoal, ⟨hself, hpath⟩, hgs⟩

theorem freshFrom_nil_iff {gs : List Goal} :
    FreshFrom [] gs ↔ gs.Pairwise fun h g => g.same h = false := by
  simp [freshFrom_iff]

/-- A trail from a new goal ends there or goes on from a goal that the first one leads to. -/
theorem exists_fresh_trail_iff {goal : Goal} {x : Operand} {path : List Goal}
    (hpath : path.any goal.same = false) :
    (∃ gs, p.Trail ev goal x gs ∧ FreshFrom path gs) ↔
      p.Direct ev goal x ∨ ∃ next y, p.LeadsTo ev goal x next y ∧
        ∃ gs, p.Trail ev next y gs ∧ FreshFrom (goal :: path) gs := by
  constructor
  · rintro ⟨gs, htrail, hfresh⟩
    cases htrail with
    | here hdirect => exact .inl hdirect
    | step hstep htrail => exact .inr ⟨_, _, hstep, _, htrail, hfresh.2⟩
  · rintro (hdirect | ⟨next, y, hstep, gs, htrail, hfresh⟩)
    · exact ⟨_, .here hdirect, hpath, trivial⟩
    · exact ⟨_, .step hstep htrail, hpath, hfresh⟩

/-- No trail starts from a goal that is on the path. -/
theorem not_exists_fresh_trail {goal : Goal} {x : Operand} {path : List Goal}
    (hpath : path.any goal.same = true) :
    ¬ ∃ gs, p.Trail ev goal x gs ∧ FreshFrom path gs := by
  rintro ⟨gs, htrail, hfresh⟩
  cases htrail <;> simp [hfresh.1] at hpath

/-- The goals after the first one of a trail are on types that relations lead to. -/
theorem Trail.relates {goal : Goal} {x : Operand} {gs : List Goal} (h : p.Trail ev goal x gs) :
    ∃ rest, gs = goal :: rest ∧ ∀ g ∈ rest, Relation.TransGen p.Relates goal.type g.type := by
  induction h with
  | here => exact ⟨[], rfl, by simp⟩
  | step hstep _ ih =>
    obtain ⟨rest, rfl, hrest⟩ := ih
    cases hstep with
    | along hb _ _ hrel _ =>
      have hnext : p.Relates _ _ := ⟨_, _, hb, hrel⟩
      refine ⟨_, rfl, ?_⟩
      intro g hg
      rcases List.mem_cons.mp hg with rfl | hg
      · exact .single hnext
      · exact .head hnext (hrest g hg)

/-- Where relations do not lead back to a type, no trail repeats a goal. -/
theorem Trail.fresh_of_acyclic (hp : p.Acyclic) {goal : Goal} {x : Operand} {gs : List Goal}
    (h : p.Trail ev goal x gs) : gs.Pairwise fun h g => g.same h = false := by
  induction h with
  | here => simp
  | step hstep htrail ih =>
    obtain ⟨rest, heq, hrest⟩ := (Trail.step hstep htrail).relates
    obtain rfl := (List.cons.inj heq).2
    refine List.pairwise_cons.mpr ⟨fun g hg => ?_, ih⟩
    rw [Bool.eq_false_iff]
    intro hsame
    have htype := (Goal.same_iff.mp hsame).1
    exact hp _ (htype ▸ hrest g hg)

end Policy

end RowGuard
