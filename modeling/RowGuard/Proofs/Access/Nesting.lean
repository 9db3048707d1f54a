import RowGuard.Proofs.Access.Compile

/-!
# How deep compiling nests

Compiling the condition for a goal compiles those for the goals that relations lead to, one inside the other.
No goal is expanded inside itself, so that compiling nests no deeper than there are goals to be reached, and
one level more for the call that is cut (`ways_nest_within`). A goal is its type and the set of its grants
(`Goal.key`).

* `Nested`: the goals of calls that are made one inside the other.
* `waysWithin`: compiling with a bound on the nesting and no other care that it ends.
* `waysWithin_of_nested`: within a bound on all chains of nested calls, both compile the same.
-/

namespace RowGuard

/-- The type and the set of grants of a goal. -/
def Goal.key (g : Goal) : String × Set String := (g.type, {n | n ∈ g.grants})

theorem Goal.same_iff_key {g h : Goal} : g.same h = true ↔ g.key = h.key := by
  rw [Goal.same_iff, key, key, Prod.mk.injEq, Set.ext_iff]
  rfl

namespace Policy

/-! ## Nested calls -/

/-- Compiling a goal calls for the goals that the relations of its rules turn it into. -/
inductive Calls (p : Policy) (goal : Goal) : (next : Goal) → Prop
  | along {n m relation other b} : p.block? goal.type = some b → b.Reaches goal.grants n →
      ⟨n, .roleOn m relation⟩ ∈ b.rules → b.related? relation = some other →
      Calls p goal (p.goalAlong b goal relation other)

/-- The goals of calls made one inside the other, below a path of calls. A goal that is on the path already
is not expanded, and calls for nothing. -/
inductive Nested (p : Policy) : (path : List Goal) → (goal : Goal) → List Goal → Prop
  | last (path goal) : Nested p path goal [goal]
  | call {path goal next chain} : path.any goal.same = false → p.Calls goal next →
      Nested p (goal :: path) next chain → Nested p path goal (goal :: chain)

variable {p : Policy} {facts : FactBook} {s : Subject} {start goal next : Goal} {path chain : List Goal}

/-- What calls of a goal come to, directly and indirectly. -/
def reachableKeys (p : Policy) (start : Goal) : Set (String × Set String) :=
  {key | ∃ goal, Relation.ReflTransGen p.Calls start goal ∧ goal.key = key}

theorem Calls.mem_goals (h : p.Calls goal next) (start : Goal) : next ∈ p.goals start := by
  cases h with
  | along hb _ _ hrelated =>
    exact relatedGoal_mem_goals (mem_relatedTypes (mem_of_block? hb) hrelated) _ start

theorem finite_reachableKeys (p : Policy) (start : Goal) : (p.reachableKeys start).Finite := by
  refine ((p.goals start).finite_toSet.image Goal.key).subset ?_
  rintro _ ⟨goal, hgoal, rfl⟩
  refine Set.mem_image_of_mem _ ?_
  cases hgoal with
  | refl => exact p.start_mem_goals start
  | tail _ hcall => exact hcall.mem_goals start

/-- All calls of a chain but the last are expanded: they repeat no goal, neither each other's nor one of
the path. -/
theorem Nested.exists_expanded (h : p.Nested path goal chain) :
    ∃ expanded last, chain = expanded ++ [last] ∧ FreshFrom path expanded ∧
      ∀ g ∈ expanded, Relation.ReflTransGen p.Calls goal g := by
  induction h with
  | last path goal => exact ⟨[], goal, rfl, trivial, by simp⟩
  | call hpath hcall _ ih =>
    obtain ⟨expanded, last, rfl, hfresh, hreach⟩ := ih
    refine ⟨_ :: expanded, last, rfl, ⟨hpath, hfresh⟩, ?_⟩
    intro g hg
    rcases List.mem_cons.mp hg with rfl | hg
    · exact .refl
    · exact .head hcall (hreach g hg)

theorem nodup_keys_of_fresh {expanded : List Goal} (h : FreshFrom [] expanded) :
    (expanded.map Goal.key).Nodup := by
  refine List.pairwise_map.mpr ((freshFrom_nil_iff.mp h).imp ?_)
  intro g g' hsame hkey
  rw [Goal.same_iff_key.mpr hkey.symm] at hsame
  exact Bool.noConfusion hsame

/-- There are no more goals in a list without repetition than keys in a finite set that holds theirs. -/
theorem length_le_ncard {expanded : List Goal} {keys : Set (String × Set String)} (hfinite : keys.Finite)
    (hnodup : (expanded.map Goal.key).Nodup) (hmem : ∀ g ∈ expanded, g.key ∈ keys) :
    expanded.length ≤ keys.ncard := by
  classical
  have hsub : ((expanded.map Goal.key).toFinset : Set (String × Set String)) ⊆ keys := by
    intro key hkey
    obtain ⟨g, hg, rfl⟩ := List.mem_map.mp (List.mem_toFinset.mp hkey)
    exact hmem g hg
  calc expanded.length = (expanded.map Goal.key).toFinset.card := by
        rw [List.toFinset_card_of_nodup hnodup, List.length_map]
    _ = ((expanded.map Goal.key).toFinset : Set (String × Set String)).ncard :=
        (Set.ncard_coe_finset _).symm
    _ ≤ keys.ncard := Set.ncard_le_ncard hsub hfinite

/-! ## Compiling within a bound -/

/-- The ways that a relation adds, with a bound on how deep calls may be nested in that for the goal it leads
to. -/
def alongWithin (p : Policy) (facts : FactBook) (goal : Goal) (b : Block)
    (ways : Goal → ExceptT Fault Option (List Way)) (r : String × List String) :
    ExceptT Fault Option (List Way) :=
  match b.related? r.1 with
  | none => throw (.policy (.undeclaredRelation (.text r.1) (.text goal.type)))
  | some type => do
    let fact ← liftM (facts.relation (.text goal.type) (.text r.1) (.text type))
    let inner ← ways (p.relatedGoal type r.2)
    liftM (relatedWays r.2 r.1 fact inner)

/-- Every way of reaching a goal, with a bound on how deep calls may be nested; nothing where they would have
to be nested deeper. -/
def waysWithin (p : Policy) (facts : FactBook) (s : Subject) :
    (depth : Nat) → (path : List Goal) → (goal : Goal) → ExceptT Fault Option (List Way)
  | 0, _, _ => .mk none
  | depth + 1, path, goal =>
    if path.any goal.same then return []
    else
      match p.block? goal.type with
      | none => throw (.policy (.undeclaredType (.text goal.type)))
      | some b => do
        let locals ← liftM (p.localWays facts s goal.type (b.derive goal.grants).localRoles)
        let globals ← liftM (p.globalWays facts s (b.derive goal.grants).globalRoles)
        let rels ← liftM (relatedInOrder (b.derive goal.grants))
        let related ← rels.mapM (p.alongWithin facts goal b (waysWithin p facts s depth (goal :: path)))
        let attributes ← liftM (Name.inOrder (b.derive goal.grants).attributes)
        let attributeWays ← liftM (attributes.mapM (attributeWay facts goal.type))
        return locals ++ globals ++ related.flatten ++ attributeWays

theorem liftM_ok_bind {α β : Type} (a : α) (f : α → ExceptT Fault Option β) :
    (liftM (Except.ok a : Except Fault α) : ExceptT Fault Option α) >>= f = f a := rfl

/-- Doing what is the same up to lifting for each item of a list. -/
theorem mapM_eq_liftM {α β : Type} {f : α → ExceptT Fault Option β} {g : α → Except Fault β} {items : List α}
    (h : ∀ a ∈ items, f a = liftM (g a)) : items.mapM f = liftM (items.mapM g) := by
  induction items with
  | nil => rfl
  | cons a rest ih =>
    rw [List.mapM_cons, List.mapM_cons, liftM_bind, h a List.mem_cons_self,
      ih fun b hb => h b (List.mem_cons_of_mem _ hb)]
    simp only [liftM_bind]
    rfl

/-- The ways of a new goal, with those that each relation adds. -/
theorem exists_waysTo_eq (facts : FactBook) (s : Subject) {b : Block} (hgoal : goal ∈ p.goals start)
    (hpath : path.any goal.same = false) (hb : p.block? goal.type = some b) :
    ∃ along : String × List String → Except Fault (List Way),
      (∀ r, b.related? r.1 = none →
        along r = .error (.policy (.undeclaredRelation (.text r.1) (.text goal.type)))) ∧
      (∀ r type, b.related? r.1 = some type → ∃ hnext, along r = do
        let fact ← facts.relation (.text goal.type) (.text r.1) (.text type)
        let inner ← p.waysTo facts s start (goal :: path) (p.relatedGoal type r.2) hnext
        relatedWays r.2 r.1 fact inner) ∧
      p.waysTo facts s start path goal hgoal = do
        let locals ← p.localWays facts s goal.type (b.derive goal.grants).localRoles
        let globals ← p.globalWays facts s (b.derive goal.grants).globalRoles
        let rels ← relatedInOrder (b.derive goal.grants)
        let related ← rels.mapM along
        let attributes ← Name.inOrder (b.derive goal.grants).attributes
        let attributeWays ← attributes.mapM (attributeWay facts goal.type)
        return locals ++ globals ++ related.flatten ++ attributeWays := by
  rw [waysTo, dif_neg (by simp [hpath])]
  split
  case h_1 hnone => simp [hb] at hnone
  case h_2 block hblock =>
    obtain rfl : block = b := Option.some.inj (hblock.symm.trans hb)
    rw [derivation_string, Outcome.ok_bind]
    refine ⟨_, ?_, ?_, rfl⟩
    · intro r hnone
      dsimp only
      split
      case h_1 => rfl
      case h_2 _ hsome => simp [hnone] at hsome
    · intro r type hsome
      refine ⟨relatedGoal_mem_goals (mem_relatedTypes (mem_of_block? hb) hsome) r.2 start, ?_⟩
      dsimp only
      split
      case h_1 hnone => simp [hsome] at hnone
      case h_2 type' hsome' =>
        obtain rfl : type = type' := Option.some.inj (hsome.symm.trans hsome')
        rfl

/-- Within a bound that no chain of nested calls exceeds, everything is compiled as without a bound. -/
theorem waysWithin_of_nested {depth : Nat} (hgoal : goal ∈ p.goals start)
    (h : ∀ chain, p.Nested path goal chain → chain.length ≤ depth) :
    p.waysWithin facts s depth path goal = liftM (p.waysTo facts s start path goal hgoal) := by
  induction depth generalizing path goal with
  | zero => simpa using h _ (.last path goal)
  | succ depth ih =>
    cases hpath : path.any goal.same with
    | true =>
      rw [waysTo_of_visited hpath, waysWithin, if_pos hpath]
      rfl
    | false =>
      rw [waysWithin, if_neg (by simp [hpath])]
      cases hb : p.block? goal.type with
      | none =>
        rw [waysTo_of_undeclared hpath hb]
        rfl
      | some b =>
        obtain ⟨along, hnone, hsome, hways⟩ := exists_waysTo_eq facts s hgoal hpath hb
        obtain ⟨rels, hrels, hmem⟩ := exists_relatedInOrder b goal.grants
        -- what is called for along a relation is nested below this goal
        have halong : ∀ r ∈ rels,
            p.alongWithin facts goal b (p.waysWithin facts s depth (goal :: path)) r = liftM (along r) := by
          rintro ⟨relation, roles⟩ hr
          obtain ⟨hrelation, hroles⟩ := (hmem _).mp hr
          obtain ⟨n, m, hn, hrule⟩ := (b.mem_derive_related goal.grants).mp hrelation
          unfold alongWithin
          cases hrelated : b.related? relation with
          | none =>
            rw [hnone _ hrelated]
            rfl
          | some type =>
            obtain ⟨hnext, hadds⟩ := hsome (relation, roles) type hrelated
            have hcall : p.Calls goal (p.relatedGoal type roles) := by
              rw [show roles = b.requiredOn goal.grants relation from hroles]
              exact .along hb hn hrule hrelated
            have hdepth : ∀ chain, p.Nested (goal :: path) (p.relatedGoal type roles) chain →
                chain.length ≤ depth := by
              intro chain hchain
              have hlength := h _ (.call hpath hcall hchain)
              simpa using hlength
            rw [hadds]
            simp only [liftM_bind, ih hnext hdepth]
        rw [hways]
        simp only [liftM_bind, hrels, liftM_ok_bind, mapM_eq_liftM halong]
        rfl

/-- Compiling ends on every policy, validated or not and with whatever cycles: on a chain of nested calls no
goal is expanded twice, so that calls are nested no deeper than there are goals to be reached from the first
one, and one level more for the call that is cut. Within this bound compiling is complete: it gives the same
ways, or fails with the same fault, as without. -/
theorem ways_nest_within (p : Policy) (facts : FactBook) (s : Subject) (type : String) (grants : List String) :
    (p.reachableKeys ⟨type, grants.eraseDups⟩).Finite ∧
      (∀ chain, p.Nested [] ⟨type, grants.eraseDups⟩ chain →
        (∃ expanded last, chain = expanded ++ [last] ∧ (expanded.map Goal.key).Nodup) ∧
        chain.length ≤ (p.reachableKeys ⟨type, grants.eraseDups⟩).ncard + 1) ∧
      p.waysWithin facts s ((p.reachableKeys ⟨type, grants.eraseDups⟩).ncard + 1) []
        ⟨type, grants.eraseDups⟩ = .mk (some (p.ways facts s type grants)) := by
  have hfinite := p.finite_reachableKeys ⟨type, grants.eraseDups⟩
  have hchain : ∀ chain, p.Nested [] ⟨type, grants.eraseDups⟩ chain →
      (∃ expanded last, chain = expanded ++ [last] ∧ (expanded.map Goal.key).Nodup) ∧
        chain.length ≤ (p.reachableKeys ⟨type, grants.eraseDups⟩).ncard + 1 := by
    intro chain h
    obtain ⟨expanded, last, rfl, hfresh, hreach⟩ := h.exists_expanded
    have hnodup := nodup_keys_of_fresh hfresh
    have hlength := length_le_ncard hfinite hnodup fun g hg => ⟨g, hreach g hg, rfl⟩
    refine ⟨⟨expanded, last, rfl, hnodup⟩, ?_⟩
    simpa using hlength
  refine ⟨hfinite, hchain, ?_⟩
  rw [waysWithin_of_nested (p.start_mem_goals _) fun chain h => (hchain chain h).2, ways,
    Name.requireKeys_string]
  rfl

end Policy

end RowGuard
