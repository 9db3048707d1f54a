import RowGuard.Policy.Derivation

/-!
# What a derivation collects

The names that a search over same-resource rules comes by are the least set that contains the grants and
is closed under those rules (`Reached`). `mem_close_fst_iff` and `mem_close_snd_iff` say that the search
finds exactly these names and uses exactly the rules that grant one of them; the fields of a derivation
follow, each by what the rules require.
-/

namespace RowGuard

/-- The names that have to be held, on the same resource, for one of the grants to be held. -/
inductive Reached {ν : Type} (rules : List (Rule ν)) (grants : List ν) : ν → Prop
  | grant {n : ν} : n ∈ grants → Reached rules grants n
  | implied {n m : ν} : Reached rules grants n → ⟨n, .role m⟩ ∈ rules → Reached rules grants m

namespace Reached

variable {ν : Type} {rules rules' : List (Rule ν)} {grants grants' : List ν} {n : ν}

/-- More rules and grants reach more names. -/
theorem mono (hrules : ∀ r ∈ rules, r ∈ rules')
    (hgrants : ∀ g ∈ grants, Reached rules' grants' g) (h : Reached rules grants n) :
    Reached rules' grants' n := by
  induction h with
  | grant hn => exact hgrants _ hn
  | implied _ hr ih => exact ih.implied (hrules _ hr)

theorem congr_grants (h : ∀ g, g ∈ grants ↔ g ∈ grants') :
    Reached rules grants n ↔ Reached rules grants' n :=
  ⟨mono (fun _ hr => hr) fun g hg => .grant ((h g).mp hg),
    mono (fun _ hr => hr) fun g hg => .grant ((h g).mpr hg)⟩

end Reached

namespace Derivation

variable {ν : Type} [BEq ν] [LawfulBEq ν] [Name ν]

omit [Name ν] in
theorem mem_granting {name : ν} {rules : List (Rule ν)} {r : Rule ν} :
    r ∈ granting name rules ↔ r ∈ rules ∧ r.grant = name := by
  simp [granting]

omit [Name ν] in
theorem mem_grantingOthers {name : ν} {rules : List (Rule ν)} {r : Rule ν} :
    r ∈ grantingOthers name rules ↔ r ∈ rules ∧ r.grant ≠ name := by
  simp [grantingOthers]

omit [Name ν] in
theorem mem_requiredHere {name m : ν} {rules : List (Rule ν)} :
    m ∈ requiredHere name rules ↔ ⟨name, .role m⟩ ∈ rules := by
  simp only [requiredHere, List.mem_reverse, List.mem_filterMap, mem_granting]
  constructor
  · rintro ⟨⟨grant, requires⟩, ⟨hr, rfl⟩, himp⟩
    cases requires <;> simp_all [impliedBy]
  · intro h
    exact ⟨_, ⟨h, rfl⟩, rfl⟩

omit [Name ν] in
/-- A name is taken off the stack together with its rules; what can be reached stays the same. -/
theorem reached_cons_iff {name : ν} {rest : List ν} {unused : List (Rule ν)} {n : ν} :
    Reached unused (name :: rest) n ↔
      n = name ∨ Reached (grantingOthers name unused) (requiredHere name unused ++ rest) n := by
  constructor
  · intro h
    induction h with
    | grant hn =>
      rcases List.mem_cons.mp hn with rfl | hn
      · exact .inl rfl
      · exact .inr (.grant (List.mem_append_right _ hn))
    | @implied n m _ hr ih =>
      -- the rule was put aside with the name, or it is still there
      by_cases hname : n = name
      · subst hname
        exact .inr (.grant (List.mem_append_left _ (mem_requiredHere.mpr hr)))
      · have hn := ih.resolve_left hname
        exact .inr (hn.implied (mem_grantingOthers.mpr ⟨hr, hname⟩))
  · rintro (rfl | h)
    · exact .grant (by simp)
    · refine Reached.mono (fun r hr => (mem_grantingOthers.mp hr).1) ?_ h
      intro g hg
      rcases List.mem_append.mp hg with hg | hg
      · exact (Reached.grant (by simp)).implied (mem_requiredHere.mp hg)
      · exact .grant (by simp [hg])

omit [Name ν] in
/-- The search comes by exactly the names that can be reached. -/
theorem mem_close_fst_iff {unused : List (Rule ν)} {stack : List ν} {n : ν} :
    n ∈ (close unused stack).1 ↔ Reached unused stack n := by
  fun_induction close unused stack with
  | case1 unused =>
    simp only [List.not_mem_nil, false_iff]
    intro h
    induction h with
    | grant hn => simp at hn
    | implied _ _ ih => exact ih
  | case2 unused name rest reached ih =>
    rw [reached_cons_iff, ← ih, List.mem_cons]

omit [Name ν] in
/-- The search uses exactly the rules that grant a name it comes by. -/
theorem mem_close_snd_iff {unused : List (Rule ν)} {stack : List ν} {r : Rule ν} :
    r ∈ (close unused stack).2 ↔ r ∈ unused ∧ Reached unused stack r.grant := by
  fun_induction close unused stack with
  | case1 unused =>
    simp only [List.not_mem_nil, false_iff, not_and]
    intro _ h
    simpa [close] using mem_close_fst_iff.mpr h
  | case2 unused name rest reached ih =>
    rw [reached_cons_iff, List.mem_append, ih, mem_granting, mem_grantingOthers]
    by_cases hname : r.grant = name <;> simp [hname]

end Derivation

/-- Looking a key up among keys that are paired with a value each. -/
theorem lookup_map_key {κ ε : Type} [BEq κ] [LawfulBEq κ] (f : κ → ε) (keys : List κ) (k : κ) :
    (keys.map fun key => (key, f key)).lookup k = if k ∈ keys then some (f k) else none := by
  induction keys with
  | nil => simp
  | cons key rest ih =>
    rw [List.map_cons, List.lookup_cons, ih]
    by_cases h : k = key
    · subst h
      simp
    · have hkey : (k == key) = false := by simpa using h
      simp [hkey, h]

namespace Block

open RowGuard.Derivation

variable {ν : Type} [BEq ν] [LawfulBEq ν] [Name ν] (b : Block ν) (grants : List ν)

/-- The names that the block's rules reach from the grants. -/
abbrev Reaches (n : ν) : Prop := Reached b.rules grants n

theorem mem_derive_rules {r : Rule ν} :
    r ∈ (b.derive grants).rules ↔ r ∈ b.rules ∧ b.Reaches grants r.grant := by
  simp only [derive, mem_close_snd_iff]
  rw [Reached.congr_grants fun g => grants.mem_reverse]

theorem mem_derive_localRoles {n : ν} :
    n ∈ (b.derive grants).localRoles ↔ n ∈ b.roles ∧ b.Reaches grants n := by
  simp only [derive, List.mem_eraseDups, List.mem_filter, mem_close_fst_iff, List.contains_iff_mem]
  rw [Reached.congr_grants fun g => grants.mem_reverse, and_comm]

/-- The rules of a derivation that have a requirement are those of the block that grant a reached name. -/
theorem exists_mem_derive_rules {requires : Requirement ν} :
    (∃ r ∈ (b.derive grants).rules, r.requires = requires) ↔
      ∃ n, b.Reaches grants n ∧ ⟨n, requires⟩ ∈ b.rules := by
  constructor
  · rintro ⟨r, hr, rfl⟩
    have hr' := (mem_derive_rules b grants).mp hr
    exact ⟨r.grant, hr'.2, hr'.1⟩
  · rintro ⟨n, hn, hr⟩
    exact ⟨_, (mem_derive_rules b grants).mpr ⟨hr, hn⟩, rfl⟩

theorem mem_derive_globalRoles {g : ν} :
    g ∈ (b.derive grants).globalRoles ↔ ∃ n, b.Reaches grants n ∧ ⟨n, .globalRole g⟩ ∈ b.rules := by
  rw [← exists_mem_derive_rules]
  show g ∈ globalRolesOf (b.derive grants).rules ↔ _
  simp only [globalRolesOf, List.mem_eraseDups, List.mem_filterMap]
  refine exists_congr ?_
  intro r
  refine and_congr_right ?_
  intro _
  unfold Rule.globalRoleField
  split <;> simp_all

theorem mem_derive_attributes {a : ν} :
    a ∈ (b.derive grants).attributes ↔ ∃ n, b.Reaches grants n ∧ ⟨n, .hasAttribute a⟩ ∈ b.rules := by
  rw [← exists_mem_derive_rules]
  show a ∈ attributesOf (b.derive grants).rules ↔ _
  simp only [attributesOf, List.mem_eraseDups, List.mem_filterMap]
  refine exists_congr ?_
  intro r
  refine and_congr_right ?_
  intro _
  unfold Rule.attributeField
  split <;> simp_all

/-- The roles that a derivation requires on a relation. -/
def requiredOn (relation : ν) : List ν := ((b.derive grants).related.lookup relation).getD []

/-- The pairs of relation and role that the rules of a derivation require. -/
private def requiredPairs : List (ν × ν) :=
  (b.derive grants).rules.filterMap fun r =>
    match r.requires with
    | .roleOn m rel => some (rel, m)
    | _ => none

private theorem mem_requiredPairs {relation m : ν} :
    (relation, m) ∈ b.requiredPairs grants ↔
      ∃ n, b.Reaches grants n ∧ ⟨n, .roleOn m relation⟩ ∈ b.rules := by
  rw [← exists_mem_derive_rules]
  simp only [requiredPairs, List.mem_filterMap]
  refine exists_congr ?_
  intro r
  refine and_congr_right ?_
  intro _
  split
  · simp_all [and_comm]
  · simp_all

theorem mem_derive_related {relation : ν} :
    relation ∈ (b.derive grants).related.map (·.1) ↔
      ∃ n m, b.Reaches grants n ∧ ⟨n, .roleOn m relation⟩ ∈ b.rules := by
  show relation ∈ (relatedOf (b.derive grants).rules).map (·.1) ↔ _
  have h : (relatedOf (b.derive grants).rules).map (·.1) =
      ((b.requiredPairs grants).map (·.1)).eraseDups := by
    rw [relatedOf, List.map_map]
    exact List.map_id _
  rw [h, List.mem_eraseDups, List.mem_map]
  constructor
  · rintro ⟨⟨relation, m⟩, hm, rfl⟩
    obtain ⟨n, hn⟩ := (b.mem_requiredPairs grants).mp hm
    exact ⟨n, m, hn⟩
  · rintro ⟨n, m, hn⟩
    exact ⟨(relation, m), (b.mem_requiredPairs grants).mpr ⟨n, hn⟩, rfl⟩

theorem mem_requiredOn {relation m : ν} :
    m ∈ b.requiredOn grants relation ↔
      ∃ n, b.Reaches grants n ∧ ⟨n, .roleOn m relation⟩ ∈ b.rules := by
  rw [← mem_requiredPairs]
  show m ∈ ((relatedOf (b.derive grants).rules).lookup relation).getD [] ↔ _
  rw [relatedOf, lookup_map_key]
  split
  case isTrue =>
    simp only [Option.getD_some, List.mem_eraseDups, List.mem_map, List.mem_filter, beq_iff_eq]
    constructor
    · rintro ⟨⟨other, m⟩, ⟨hm, rfl⟩, rfl⟩
      exact hm
    · intro hm
      exact ⟨_, ⟨hm, rfl⟩, rfl⟩
  case isFalse h =>
    -- no pair names the relation
    have hm : (relation, m) ∉ b.requiredPairs grants := fun hm =>
      h (List.mem_eraseDups.mpr (List.mem_map.mpr ⟨_, hm, rfl⟩))
    simp [hm]

end Block

end RowGuard
