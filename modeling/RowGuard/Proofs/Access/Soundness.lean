import RowGuard.Proofs.Access.Exactness
import RowGuard.Proofs.Evaluator.Checks

/-!
# A condition grants only what is held

Compiling may cut a goal that is met again on the way to itself, and so a condition may miss resources on which
the subject holds the action. It never holds of any other: whatever was cut, and wherever on the path, a way that
holds of a resource is a trail from its goal, and so a derivation of one of the goal's grants.

* `Policy.holds_of_waysTo`: the ways of any goal, with any path before it.
* `LocalEvaluator.held_of_condition`: the condition for an action.
* `LocalEvaluator.held_of_check`: a check that answers yes.
-/

namespace RowGuard

open Outcome

/-- The ways of a goal hold only of the resources on which one of its grants is held, whichever goals the path
before it cuts. -/
theorem Policy.holds_of_waysTo {p : Policy} {facts : FactBook} {s : Subject} {db : Database}
    {value : Literal → Value} {start goal : Goal} {path : List Goal} {hgoal : goal ∈ p.goals start}
    {ways : List Way} {x : Operand} (hways : p.waysTo facts s start path goal hgoal = .ok ways) {w : Way}
    (hw : w ∈ ways) (hholds : Clause.holds db value x w.clause = true) :
    ∃ a ∈ goal.grants, p.Holds (facts.evidence p s db value) goal.type x a := by
  obtain ⟨gs, htrail, _⟩ := (holds_waysTo_iff_exists_trail hways).mp ⟨w, hw, hholds⟩
  exact htrail.holds

namespace LocalEvaluator

variable {e : LocalEvaluator} {config : Config} {s : Subject} {type action : String} {c : Condition}

/-- An undeclared action compiles to no clause, if it compiles at all. -/
theorem condition_of_undeclared (hundeclared : e.policy.declares type action = false)
    (hc : e.condition config s (.text action) (.text type) = .ok c) : c = [] := by
  have hdeclared : e.declared? (.text action) (.text type) = .ok none := by
    rw [declared?, FactBook.requireKey_of_isKey rfl, ok_bind]
    show Except.ok (if e.policy.declares type action then some (action, type) else none) = _
    simp [hundeclared]
  rw [condition, hdeclared, ok_bind] at hc
  dsimp only at hc
  split at hc
  · exact (Except.ok.inj hc).symm
  · cases hc

/-- A condition holds only of resources on which the subject holds the action, also where relations lead back to
a type: cutting a goal that is met again grants nothing. -/
theorem held_of_condition (hc : e.condition config s (.text action) (.text type) = .ok c) {db : Database}
    {value : Literal → Value} {x : Operand} (hholds : Condition.holds db value x c = true) :
    e.policy.Holds (e.facts.evidence e.policy s db value) type x action := by
  cases hdeclared : e.policy.declares type action with
  | false =>
    obtain rfl := condition_of_undeclared hdeclared hc
    cases hholds
  | true =>
    rw [condition_of_declares hdeclared, Policy.condition, bind_eq_ok_iff] at hc
    obtain ⟨ways, hways, hc⟩ := hc
    obtain rfl := Except.ok.inj hc
    rw [Policy.ways, Name.requireKeys_string, ok_bind] at hways
    obtain ⟨w, hw, hclause⟩ := Condition.holds_ofWays_iff.mp hholds
    obtain ⟨a, ha, hheld⟩ := Policy.holds_of_waysTo hways hw hclause
    -- the action is the only grant of the goal that compiling starts from
    obtain rfl : a = action := by simpa using ha
    exact hheld

/-- A check on the caller's connection that answers yes is right about what the database says there. -/
theorem held_of_check {r : Resource} {start checked : System} (hr : r.type = .text type)
    (h : e.check true s (.text action) r start = (.ok true, checked)) :
    e.policy.Holds (e.facts.evidence e.policy s start.seen Literal.bound) type (.bare (e.target r).bound) action := by
  obtain ⟨c, hc, _, hholds⟩ := holds_of_check h
  rw [hr] at hc
  exact held_of_condition hc hholds.symm

end LocalEvaluator

end RowGuard

namespace RowGuard.Folders

open Policy

/-- The relation of folders leads back to folders. -/
theorem not_acyclic : ¬ policy.Acyclic :=
  fun h => h "Folder" (.single ⟨folderBlock, "parent", rfl, rfl⟩)

/-- Bob is a viewer of the folder `b` by the condition, although it was cut, and by the policy. -/
theorem held_of_condition_b :
    ¬ policy.Acyclic ∧
      ∃ c, evaluator.condition {} bob (.text "viewer") (.text "Folder") = .ok c ∧
        Condition.holds database Literal.bound (.bare (.text "b")) c = true ∧
        policy.Holds evidence "Folder" (.bare (.text "b")) "viewer" := by
  obtain ⟨c, hc, hholds⟩ := @LocalEvaluator.exists_condition evaluator {} bob "Folder" "viewer" (by decide)
    facts_supplies isActor_bob (by decide)
  have hrole : evidence.hasRoleOn "Folder" "viewer" (.bare (.text "b")) :=
    (hasRoleOn_iff _ _).mpr ⟨⟨by rw [actorLiteral_bob]; decide, by decide⟩, by decide⟩
  have hb : policy.block? "Folder" = some folderBlock := rfl
  have hdirect : policy.Direct evidence ⟨"Folder", ["viewer"]⟩ (.bare (.text "b")) :=
    .role hb (.grant List.mem_cons_self) List.mem_cons_self hrole
  have htrue : Condition.holds database Literal.bound (.bare (.text "b")) c = true :=
    (hholds _ _ _).mpr ⟨_, .here hdirect, rfl, trivial⟩
  exact ⟨not_acyclic, c, hc, htrue, LocalEvaluator.held_of_condition (e := evaluator) hc htrue⟩

end RowGuard.Folders
