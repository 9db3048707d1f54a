import RowGuard.Proofs.Access.Supply
import RowGuard.Records.Policy

/-!
# The records policy

The policy of the records application is consistent, its relations do not lead back to a type, and its fact
book supplies every fact that it needs.
-/

namespace RowGuard

namespace Policy

variable {p : Policy}

/-- Relations that lead down in some rank have no cycle. -/
theorem acyclic_of_rank (rank : String → Nat)
    (h : ∀ b ∈ p.blocks, ∀ r ∈ b.relations, rank r.2 < rank b.name) : p.Acyclic := by
  have hstep : ∀ type other, p.Relates type other → rank other < rank type := by
    rintro type other ⟨b, relation, hb, hrel⟩
    obtain ⟨r, hr, rfl⟩ :=
      List.mem_map.mp (mem_values_of_lookup (Option.filter_eq_some_iff.mp hrel).1)
    have hlt := h b (mem_of_block? hb) r hr
    rwa [name_of_block? hb] at hlt
  have hpath : ∀ type other, Relation.TransGen p.Relates type other → rank other < rank type := by
    intro type other hrel
    induction hrel with
    | single hlast => exact hstep _ _ hlast
    | tail _ hlast ih => exact Nat.lt_trans (hstep _ _ hlast) ih
  exact fun type htype => Nat.lt_irrefl _ (hpath type type htype)

end Policy

namespace Records

theorem policy_validate : policy.validate none = .ok () := by decide

theorem policy_acyclic : policy.Acyclic :=
  Policy.acyclic_of_rank (fun type => if type = "Organization" then 0 else 1) (by decide)

private theorem mem_blocks {b : Block} (hb : b ∈ policy.blocks) :
    b = globalBlock ∨ b = organizationBlock ∨ b = userBlock ∨ b = documentBlock := by
  simpa [policy] using hb

/-- The relations that the rules ask for are those of a user and of a document to an organization. -/
private theorem required_relation {b : Block} (hb : b ∈ policy.blocks)
    {n m relation other : String} (hr : ⟨n, .roleOn m relation⟩ ∈ b.rules)
    (hother : b.related? relation = some other) :
    (b = userBlock ∧ relation = "parent" ∨ b = documentBlock ∧ relation = "belongs_to") ∧
      other = "Organization" := by
  rcases mem_blocks hb with rfl | rfl | rfl | rfl
  · simp [globalBlock] at hr
  · simp [organizationBlock] at hr
  · have hrelation : relation = "parent" := by
      simp [userBlock] at hr
      grind
    subst hrelation
    exact ⟨.inl ⟨rfl, rfl⟩, (Option.some.inj hother).symm⟩
  · have hrelation : relation = "belongs_to" := by
      simp [documentBlock] at hr
      grind
    subst hrelation
    exact ⟨.inr ⟨rfl, rfl⟩, (Option.some.inj hother).symm⟩

private theorem required_attribute {b : Block} (hb : b ∈ policy.blocks) {n a : String}
    (hr : ⟨n, .hasAttribute a⟩ ∈ b.rules) : b = documentBlock ∧ a = "public" := by
  rcases mem_blocks hb with rfl | rfl | rfl | rfl
  · simp [globalBlock] at hr
  · simp [organizationBlock] at hr
  · simp [userBlock] at hr
  · simp only [documentBlock, List.mem_cons, Rule.mk.injEq, reduceCtorEq, and_false, false_or,
      Requirement.hasAttribute.injEq, List.not_mem_nil, or_false] at hr
    exact ⟨rfl, hr.2⟩

theorem prod_beq {α β : Type} [BEq α] [BEq β] (a c : α) (b d : β) :
    ((a, b) == (c, d)) = (a == c && b == d) := rfl

theorem facts_supplies : facts.Supplies policy where
  actorKey := rfl
  role b hb hname hroles := by
    rcases mem_blocks hb with rfl | rfl | rfl | rfl
    · exact absurd rfl hname
    · simp only [facts, organizationBlock, List.lookup_cons, Data.text_beq_text]
      exact ⟨_, rfl, FactQuery.sized_selection rfl⟩
    · exact absurd rfl hroles
    · simp only [facts, documentBlock, List.lookup_cons, Data.text_beq_text]
      exact ⟨_, rfl, FactQuery.sized_selection rfl⟩
  globalRole _ := ⟨_, rfl, FactQuery.sized_selection rfl⟩
  relation b hb n m relation other hr hother := by
    obtain ⟨⟨rfl, rfl⟩ | ⟨rfl, rfl⟩, rfl⟩ := required_relation hb hr hother
    · simp only [facts, userBlock, List.lookup_cons, prod_beq, Data.text_beq_text]
      exact ⟨_, rfl, FactQuery.sized_selection rfl⟩
    · simp only [facts, documentBlock, List.lookup_cons, prod_beq, Data.text_beq_text]
      exact ⟨_, rfl, FactQuery.sized_selection rfl⟩
  hasAttribute b hb n a hr := by
    obtain ⟨rfl, rfl⟩ := required_attribute hb hr
    simp only [facts, documentBlock, List.lookup_cons, prod_beq, Data.text_beq_text]
    exact ⟨_, rfl, FactQuery.sized_selection rfl⟩

end Records

end RowGuard
