import RowGuard.Policy.Derivation

/-!
# Goals

Compiling a condition passes from the goal asked for to goals on related resources. Apart from the first
one, every goal consists of a type that some relation leads to and of roles that some rule requires on a
relation, so a policy has finitely many of them: `relatedGoal_mem_goals`. A path that never repeats a
goal therefore ends, which is what `length_unvisited_lt` says.
-/

namespace RowGuard

/-- One of the grants, on a resource of the type. The order of the grants plays no part. -/
structure Goal (ν : Type := String) where
  type : ν
  grants : List ν
deriving DecidableEq

namespace Goal

variable {ν : Type} [BEq ν]

/-- Whether two goals are the same: their types are, and so are their grants as sets. -/
def same (g h : Goal ν) : Bool :=
  g.type == h.type && g.grants.all h.grants.contains && h.grants.all g.grants.contains

theorem same_self [ReflBEq ν] (g : Goal ν) : g.same g = true := by
  have h : ∀ x ∈ g.grants, g.grants.contains x = true := fun x hx =>
    List.contains_iff_exists_mem_beq.mpr ⟨x, hx, BEq.rfl⟩
  simp only [same, BEq.rfl, Bool.true_and, Bool.and_eq_true, List.all_eq_true]
  exact ⟨h, h⟩

end Goal

/-- Every choice of elements of a list, in the order of the list. -/
def choices {α : Type} : List α → List (List α)
  | [] => [[]]
  | x :: xs => choices xs ++ (choices xs).map (x :: ·)

theorem filter_mem_choices {α : Type} (p : α → Bool) (xs : List α) : xs.filter p ∈ choices xs := by
  induction xs with
  | nil => simp [choices]
  | cons x xs ih =>
    by_cases h : p x
    · simp [choices, h, ih]
    · simp [choices, h, ih]

namespace Policy

variable {ν : Type}

/-- The role that a rule requires on a relation. -/
def requiredOnRelation (r : Rule ν) : Option ν :=
  match r.requires with
  | .roleOn m _ => some m
  | _ => none

/-- The types that relations lead to. -/
def relatedTypes (p : Policy ν) : List ν :=
  p.blocks.flatMap fun b => b.relations.map (·.2)

variable [BEq ν]

/-- The roles that rules require on relations, each once. -/
def relatedRoles (p : Policy ν) : List ν :=
  (p.blocks.flatMap fun b => b.rules.filterMap requiredOnRelation).eraseDups

/-- The goal of holding one of some roles on a related resource. -/
def relatedGoal (p : Policy ν) (type : ν) (roles : List ν) : Goal ν :=
  ⟨type, p.relatedRoles.filter roles.contains⟩

/-- The goals that compiling a condition can meet. -/
def goals (p : Policy ν) (start : Goal ν) : List (Goal ν) :=
  start :: p.relatedTypes.flatMap fun type => (choices p.relatedRoles).map (Goal.mk type)

theorem start_mem_goals (p : Policy ν) (start : Goal ν) : start ∈ p.goals start := by
  simp [goals]

/-- What is found under a key stands in the list. -/
theorem mem_values_of_lookup {ε : Type} {key : ν} {value : ε} {l : List (ν × ε)}
    (h : l.lookup key = some value) : value ∈ l.map (·.2) := by
  induction l with
  | nil => simp at h
  | cons entry rest ih =>
    rw [List.lookup_cons] at h
    split at h
    · simp_all
    · exact List.mem_cons_of_mem _ (ih h)

theorem mem_relatedTypes [Name ν] {p : Policy ν} {b : Block ν} {relation type : ν} (hb : b ∈ p.blocks)
    (h : b.related? relation = some type) : type ∈ p.relatedTypes :=
  List.mem_flatMap.mpr ⟨b, hb, mem_values_of_lookup (Option.filter_eq_some_iff.mp h).1⟩

theorem relatedGoal_mem_goals {p : Policy ν} {type : ν} (h : type ∈ p.relatedTypes) (roles : List ν)
    (start : Goal ν) : p.relatedGoal type roles ∈ p.goals start := by
  refine List.mem_cons_of_mem _ (List.mem_flatMap.mpr ⟨type, h, ?_⟩)
  exact List.mem_map_of_mem (filter_mem_choices _ _)

/-- The goals that are not on a path. -/
def unvisited (p : Policy ν) (start : Goal ν) (path : List (Goal ν)) : List (Goal ν) :=
  (p.goals start).filter fun g => !path.any g.same

/-- A goal that is new to a path leaves fewer goals to visit. -/
theorem length_unvisited_lt [ReflBEq ν] {p : Policy ν} {start goal : Goal ν} {path : List (Goal ν)}
    (hgoal : goal ∈ p.goals start) (hpath : path.any goal.same = false) :
    (p.unvisited start (goal :: path)).length < (p.unvisited start path).length := by
  have hsub : p.unvisited start (goal :: path) =
      (p.unvisited start path).filter fun g => !g.same goal := by
    simp only [unvisited, List.filter_filter, List.any_cons, Bool.not_or]
  rw [hsub]
  apply List.length_filter_lt_length_iff_exists.mpr
  exact ⟨goal, List.mem_filter.mpr ⟨hgoal, by simp [hpath]⟩, by simp [goal.same_self]⟩

end Policy

end RowGuard
