import Mathlib
import RowGuard.Proofs.Access.Compile

/-!
# A derivation is a least fixed point

The names that have to be held for one of the grants to be held are the least set that contains the grants
and is closed under the rules without relation (`Block.isLeast_reaches`). A derivation ends, and collects
exactly what the rules granting one of these names require, and exactly those rules
(`Policy.derives_least`); its sets depend on neither the order of the rules nor that of the grants.

* `Derivation.length_close_le`: the search comes by no more names than there are grants and rules.
* `Derivation.close_snd_perm`: it uses each rule that grants one of them, once.
-/

namespace RowGuard

/-- Erasing repetitions leaves none. -/
theorem nodup_eraseDups {α : Type} [BEq α] [LawfulBEq α] : (l : List α) → l.eraseDups.Nodup
  | [] => by simp
  | a :: rest => by
    rw [List.eraseDups_cons, List.nodup_cons]
    refine ⟨?_, nodup_eraseDups (rest.filter fun b => !b == a)⟩
    rw [List.mem_eraseDups, List.mem_filter]
    simp
termination_by l => l.length
decreasing_by exact Nat.lt_succ_of_le (List.length_filter_le _ _)

namespace Derivation

variable {ν : Type} [BEq ν]

/-! ## The search -/

/-- The search comes by no more names, repetitions included, than there are rules and names to begin with. -/
theorem length_close_le (unused : List (Rule ν)) (stack : List ν) :
    (close unused stack).1.length ≤ unused.length + stack.length := by
  fun_induction close unused stack with
  | case1 unused => simp
  | case2 unused name rest reached ih =>
    have hshorter := length_requiredHere_add_le name unused
    change reached.1.length ≤ _ at ih
    simp only [List.length_append, List.length_cons] at ih ⊢
    omega

open Classical in
/-- The search uses the rules that grant a name it comes by, each as often as it is declared. -/
theorem close_snd_perm [LawfulBEq ν] [Name ν] (unused : List (Rule ν)) (stack : List ν) :
    (close unused stack).2.Perm (unused.filter fun r => decide (Reached unused stack r.grant)) := by
  fun_induction close unused stack with
  | case1 unused =>
    have hnone : ∀ r ∈ unused, ¬ decide (Reached unused [] r.grant) = true := by
      intro r _ hr
      simpa [close] using mem_close_fst_iff.mpr (of_decide_eq_true hr)
    rw [List.filter_eq_nil_iff.mpr hnone]
  | case2 unused name rest reached ih =>
    -- the rules that grant the name come first; the others are those that the rest of the search uses
    have hgranting : (unused.filter fun r => decide (Reached unused (name :: rest) r.grant)).filter
        (fun r => r.grant == name) = granting name unused := by
      rw [List.filter_filter]
      refine List.filter_congr ?_
      intro r _
      rw [Bool.and_eq_left_iff_imp]
      intro hname
      exact decide_eq_true (reached_cons_iff.mpr (.inl (eq_of_beq hname)))
    have hothers : (unused.filter fun r => decide (Reached unused (name :: rest) r.grant)).filter
        (fun r => !(r.grant == name)) = (grantingOthers name unused).filter fun r =>
          decide (Reached (grantingOthers name unused) (requiredHere name unused ++ rest) r.grant) := by
      rw [grantingOthers, List.filter_filter, List.filter_filter]
      refine List.filter_congr ?_
      intro r _
      by_cases hname : r.grant = name
      · simp [hname]
      · simp [hname, reached_cons_iff, grantingOthers, Bool.and_comm]
    refine .trans ?_ (List.filter_append_perm (fun r : Rule ν => r.grant == name) _)
    rw [hgranting, hothers]
    exact .append_left _ ih

/-! ## What is collected -/

/-- The roles that a derivation requires on a relation. -/
def rolesOn (d : Derivation ν) (relation : ν) : List ν := (d.related.lookup relation).getD []

open Classical in
/-- The derivation has collected, from the rules of the block that grant one of the names, everything they
require beyond names on the same resource, and these rules themselves. -/
structure Collects (d : Derivation ν) (b : Block ν) (names : Set ν) : Prop where
  localRoles : {n | n ∈ d.localRoles} = names ∩ {n | n ∈ b.roles}
  globalRoles : {g | g ∈ d.globalRoles} = {g | ∃ n ∈ names, ⟨n, .globalRole g⟩ ∈ b.rules}
  attributes : {a | a ∈ d.attributes} = {a | ∃ n ∈ names, ⟨n, .hasAttribute a⟩ ∈ b.rules}
  relations : {rel | rel ∈ d.related.map (·.1)} = {rel | ∃ n ∈ names, ∃ m, ⟨n, .roleOn m rel⟩ ∈ b.rules}
  related : ∀ rel, {m | m ∈ d.rolesOn rel} = {m | ∃ n ∈ names, ⟨n, .roleOn m rel⟩ ∈ b.rules}
  rules : d.rules.Perm (b.rules.filter fun r => decide (r.grant ∈ names))

/-- Two derivations have the same sets of names. -/
structure SameSets (d d' : Derivation ν) : Prop where
  localRoles : {n | n ∈ d.localRoles} = {n | n ∈ d'.localRoles}
  globalRoles : {g | g ∈ d.globalRoles} = {g | g ∈ d'.globalRoles}
  attributes : {a | a ∈ d.attributes} = {a | a ∈ d'.attributes}
  relations : {rel | rel ∈ d.related.map (·.1)} = {rel | rel ∈ d'.related.map (·.1)}
  related : ∀ rel, {m | m ∈ d.rolesOn rel} = {m | m ∈ d'.rolesOn rel}

/-- No name stands in a set of the derivation twice. -/
structure IsSimple (d : Derivation ν) : Prop where
  localRoles : d.localRoles.Nodup
  globalRoles : d.globalRoles.Nodup
  attributes : d.attributes.Nodup
  relations : (d.related.map (·.1)).Nodup
  related : ∀ rel, (d.rolesOn rel).Nodup

/-- What is collected from the same names depends on which rules there are, not on their order. -/
theorem Collects.sameSets {d d' : Derivation ν} {b b' : Block ν} {names : Set ν} (h : d.Collects b names)
    (h' : d'.Collects b' names) (hroles : b'.roles = b.roles) (hrules : ∀ r, r ∈ b'.rules ↔ r ∈ b.rules) :
    d.SameSets d' where
  localRoles := by rw [h.localRoles, h'.localRoles, hroles]
  globalRoles := by rw [h.globalRoles, h'.globalRoles]; simp only [hrules]
  attributes := by rw [h.attributes, h'.attributes]; simp only [hrules]
  relations := by rw [h.relations, h'.relations]; simp only [hrules]
  related rel := by rw [h.related, h'.related]; simp only [hrules]

end Derivation

/-! ## The least closed set -/

namespace Block

variable {ν : Type} (b : Block ν) (grants : List ν)

/-- The sets of names that contain the grants, and with a name the role that a rule granting it requires on
the same resource. -/
def ClosedSets : Set (Set ν) :=
  {names | (∀ g ∈ grants, g ∈ names) ∧ ∀ n m, ⟨n, .role m⟩ ∈ b.rules → n ∈ names → m ∈ names}

theorem isLeast_reaches : IsLeast (b.ClosedSets grants) {n | b.Reaches grants n} := by
  constructor
  · exact ⟨fun g hg => .grant hg, fun n m hr hn => .implied hn hr⟩
  · rintro names ⟨hgrants, hrules⟩ n hn
    induction hn with
    | grant hg => exact hgrants _ hg
    | implied _ hr ih => exact hrules _ _ hr ih

variable [BEq ν] [LawfulBEq ν] [Name ν]

theorem collects_derive : (b.derive grants).Collects b {n | b.Reaches grants n} where
  localRoles := by
    ext n
    exact (b.mem_derive_localRoles grants).trans and_comm
  globalRoles := by
    ext g
    exact b.mem_derive_globalRoles grants
  attributes := by
    ext a
    exact b.mem_derive_attributes grants
  relations := by
    ext rel
    refine (b.mem_derive_related grants).trans ?_
    simp only [exists_and_left]
    rfl
  related rel := by
    ext m
    exact b.mem_requiredOn grants
  rules := by
    have hsame : ∀ n, Reached b.rules grants.reverse n ↔ n ∈ {n | b.Reaches grants n} := fun n =>
      Reached.congr_grants fun g => grants.mem_reverse
    refine (Derivation.close_snd_perm b.rules grants.reverse).trans (.of_eq (List.filter_congr ?_))
    intro r _
    exact decide_eq_decide.mpr (hsame r.grant)

theorem isSimple_derive : (b.derive grants).IsSimple where
  localRoles := nodup_eraseDups _
  globalRoles := nodup_eraseDups _
  attributes := nodup_eraseDups _
  relations := by
    show ((Derivation.relatedOf (b.derive grants).rules).map (·.1)).Nodup
    rw [Derivation.relatedOf, List.map_map]
    exact (List.map_id _).symm ▸ nodup_eraseDups _
  related rel := by
    show (((Derivation.relatedOf (b.derive grants).rules).lookup rel).getD []).Nodup
    rw [Derivation.relatedOf, lookup_map_key]
    split
    case isTrue => exact nodup_eraseDups _
    case isFalse => exact List.nodup_nil

end Block

namespace Policy

theorem derive_of_block? {p : Policy} {type : String} {b : Block} (hb : p.block? type = some b)
    (grants : List String) : p.derive type grants = .ok (b.derive grants) := by
  simp [derive, block, hb, Except.map]

/-- Deriving grants on a declared type gives a result, after coming by no more names than there are rules
of the type and grants. It has collected what the least set of names calls for that contains the grants and
is closed under the type's rules without relation; and its sets are the same whichever order the grants and
the rules are given in, and however often a grant is repeated. -/
theorem derives_least {p : Policy} {type : String} {b : Block} (hb : p.block? type = some b)
    (grants : List String) :
    ∃ names d, IsLeast (b.ClosedSets grants) names ∧
      p.derive type grants = .ok d ∧ derivation b grants = .ok d ∧
      d.resourceType = type ∧ d.Collects b names ∧ d.IsSimple ∧
      (Derivation.close b.rules grants.reverse).1.length ≤ b.rules.length + grants.length ∧
      ∀ (p' : Policy) (rules' : List Rule) (grants' : List String),
        p'.block? type = some { b with rules := rules' } → rules'.Perm b.rules →
        (∀ g, g ∈ grants' ↔ g ∈ grants) →
        ∃ d', p'.derive type grants' = .ok d' ∧ d.SameSets d' := by
  have hleast := b.isLeast_reaches grants
  have hcollects := b.collects_derive grants
  refine ⟨_, _, hleast, derive_of_block? hb grants, derivation_string b grants, name_of_block? hb, hcollects,
    b.isSimple_derive grants, ?_, ?_⟩
  · simpa using Derivation.length_close_le b.rules grants.reverse
  · intro p' rules' grants' hb' hrules hgrants
    -- the same sets are closed, and so the least one is the same
    have hclosed : ({ b with rules := rules' } : Block).ClosedSets grants' = b.ClosedSets grants := by
      unfold Block.ClosedSets
      simp only [hgrants, hrules.mem_iff]
    have hnames := ({ b with rules := rules' } : Block).isLeast_reaches grants'
    rw [hclosed] at hnames
    have hcollects' := ({ b with rules := rules' } : Block).collects_derive grants'
    rw [hnames.unique hleast] at hcollects'
    exact ⟨_, derive_of_block? hb' grants', hcollects.sameSets hcollects' rfl fun _ => hrules.mem_iff⟩

end Policy

/-! ## Squads -/

namespace Squads

/-- Captains are members and members captains, and one rule is given twice. -/
def squad : Block where
  name := "Squad"
  roles := ["captain", "member"]
  permissions := ["enter"]
  relations := [("league", "League")]
  rules := [⟨"enter", .role "member"⟩, ⟨"member", .role "captain"⟩, ⟨"captain", .role "member"⟩,
    ⟨"captain", .globalRole "chief"⟩, ⟨"enter", .hasAttribute "open"⟩, ⟨"member", .roleOn "guest" "league"⟩,
    ⟨"enter", .role "member"⟩]

def policy : Policy := ⟨[squad], .text "User"⟩

/-- The policy with the rules in another order. -/
def reordered : Policy := ⟨[{ squad with rules := squad.rules.reverse }], .text "User"⟩

/-- Deriving who may enter a squad follows the implications around their cycle, and comes to the same sets
whichever way round the rules stand. -/
theorem derives_least_squad :
    policy.block? "Squad" = some squad ∧
      ∃ names d, IsLeast (squad.ClosedSets ["enter", "enter"]) names ∧
        policy.derive "Squad" ["enter", "enter"] = .ok d ∧ d.Collects squad names ∧
        ∃ d', reordered.derive "Squad" ["enter"] = .ok d' ∧ d.SameSets d' := by
  have hblock : policy.block? "Squad" = some squad := by rfl
  have hreordered : reordered.block? "Squad" = some { squad with rules := squad.rules.reverse } := by rfl
  obtain ⟨names, d, hleast, hderive, _, _, hcollects, _, _, hsame⟩ :=
    Policy.derives_least hblock ["enter", "enter"]
  refine ⟨hblock, names, d, hleast, hderive, hcollects, ?_⟩
  exact hsame reordered squad.rules.reverse ["enter"] hreordered (List.reverse_perm _) (by simp)

end Squads

end RowGuard
