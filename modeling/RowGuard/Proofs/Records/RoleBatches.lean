import RowGuard.Proofs.Records.Attempts
import RowGuard.Proofs.Records.RoleEdits

/-!
# Batches of new roles

A batch of new roles is valid if it names somebody, and no more users than its limit, with roles that users can have
(`checkTargets_roleTargets_eq_ok_iff`, `exists_unknownRoles`). What is planned for a user named by a text
(`exists_planned`) goes through exactly if the user may edit the role of everybody it names and does not name itself,
and the user's name has no null character (`exists_outcome_iff`); otherwise the fault is one of the authorization
system (`isAuthz_of_outcome`).
-/

namespace RowGuard.Records

open Batch

variable {db : Database} {user : String} {b : Batch} {updates : List (String × String)} {given : Config}

/-! ## Valid batches -/

/-- The batch names somebody, no more users than a limit allows, and roles that users can have. -/
structure IsValidEdit (limit : Option Number) (updates : List (String × String)) : Prop where
  nonempty : updates ≠ []
  within : ∀ most, limit = some most → most.isBelow updates.length = false
  roles : ∀ entry ∈ updates, entry.2 ∈ organizationRoles

theorem allComparable_of_texts {items : List Data} (h : ∀ d ∈ items, ∃ s, d = .text s) :
    Data.allComparable items = true := by
  induction items with
  | nil => rfl
  | cons d rest ih =>
    obtain ⟨s, rfl⟩ := h d List.mem_cons_self
    rw [Data.allComparable, ih fun d' hd' => h d' (List.mem_cons_of_mem _ hd'), Bool.and_true, List.all_eq_true]
    intro d' hd'
    obtain ⟨t, rfl⟩ := h d' (List.mem_cons_of_mem _ hd')
    rfl

-- the equality of data is no more than an equivalence, so that `List.mem_eraseDups` does not apply
theorem mem_of_mem_eraseDups {d : Data} : ∀ items : List Data, d ∈ items.eraseDups → d ∈ items
  | [], h => h
  | a :: rest, h => by
    rw [List.eraseDups_cons] at h
    rcases List.mem_cons.mp h with rfl | h
    · exact List.mem_cons_self
    · exact List.mem_cons_of_mem _ (List.mem_of_mem_filter (mem_of_mem_eraseDups _ h))
  termination_by items => items.length
  decreasing_by exact Nat.lt_succ_of_le (List.length_filter_le _ _)

/-- Roles that users cannot have can be put in order, and there are none among roles that users have. -/
theorem exists_unknownRoles (updates : List (String × String)) :
    ∃ unknown, unknownRoles (Service.updatesData updates) = .ok unknown ∧
      ((∀ entry ∈ updates, entry.2 ∈ organizationRoles) → unknown = []) := by
  have hvalues : (Service.updatesData updates).map (·.2) = updates.map fun entry => Data.text entry.2 := by
    simp [Service.updatesData]
  have htexts : ∀ d ∈ updates.map fun entry => Data.text entry.2, ∃ role, d = .text role := by
    intro d hd
    obtain ⟨entry, _, rfl⟩ := List.mem_map.mp hd
    exact ⟨entry.2, rfl⟩
  have hkeys : (updates.map fun entry => Data.text entry.2).all Data.isKey = true := by
    refine List.all_eq_true.mpr fun d hd => ?_
    obtain ⟨role, rfl⟩ := htexts d hd
    rfl
  have hsorted : Data.allComparable ((updates.map fun entry => Data.text entry.2).filter
      fun role => !isOrganizationRole role).eraseDups = true :=
    allComparable_of_texts fun d hd => htexts d (List.mem_of_mem_filter (mem_of_mem_eraseDups _ hd))
  unfold unknownRoles Data.sorted?
  dsimp only
  rw [hvalues, hkeys, hsorted]
  refine ⟨_, rfl, fun hroles => ?_⟩
  have hnone : (updates.map fun entry => Data.text entry.2).filter (fun role => !isOrganizationRole role) = [] := by
    refine List.filter_eq_nil_iff.mpr fun d hd => ?_
    obtain ⟨entry, hentry, rfl⟩ := List.mem_map.mp hd
    simp [Service.isOrganizationRole_iff.mpr (hroles entry hentry)]
  rw [hnone]
  exact List.mergeSort_nil

theorem identities_apart (hnodup : (updates.map (·.1)).Nodup) :
    (updates.map roleTarget).Pairwise fun a b => b.identity.same a.identity = false := by
  rw [List.pairwise_map]
  refine (List.pairwise_map.mp hnodup).imp ?_
  intro x y hne
  refine Bool.eq_false_iff.mpr fun hsame => hne ?_
  have heq : Data.text y.1 = Data.text x.1 := of_decide_eq_true ((Data.beq_text _ _).symm.trans hsame)
  simpa [Data.text] using heq.symm

theorem isKey_roleTargets : ∀ t ∈ updates.map roleTarget, t.identity.isKey = true := by
  intro t ht
  obtain ⟨entry, _, rfl⟩ := List.mem_map.mp ht
  rfl

theorem exceeds_eq_none_iff {count : Nat} {limit : Option Number} :
    exceeds count limit = none ↔ ∀ most, limit = some most → most.isBelow count = false := by
  unfold exceeds
  cases limit with
  | none => simp
  | some most => simp [Option.filter]

theorem checkTargets_roleTargets_eq_ok_iff (hnodup : (updates.map (·.1)).Nodup)
    (hroles : ∀ entry ∈ updates, entry.2 ∈ organizationRoles) :
    checkTargets given (updates.map roleTarget) = .ok () ↔ IsValidEdit given.maxBatchSize updates := by
  rw [checkTargets_eq_ok_iff, List.length_map, exceeds_eq_none_iff, ne_eq, List.map_eq_nil_iff]
  constructor
  · rintro ⟨hnonempty, hwithin, _⟩
    exact ⟨hnonempty, hwithin, hroles⟩
  · intro hvalid
    exact ⟨hvalid.nonempty, hvalid.within, isKey_roleTargets, identities_apart hnodup⟩

theorem columns_roleTarget (entry : String × String) : (roleTarget entry).columns = ["role"] :=
  (by decide +kernel : Text.sortedSet ["role"] = ["role"])

theorem keysOf_roleTargets (hsome : updates ≠ []) : keysOf (updates.map roleTarget) = ["role"] := by
  obtain ⟨entry, rest, rfl⟩ := List.exists_cons_of_ne_nil hsome
  exact columns_roleTarget entry

theorem checkColumns_roleTargets (hsome : updates ≠ []) :
    checkColumns userMapping (updates.map roleTarget) [] = .ok () := by
  have hequal : (updates.map roleTarget).any (fun t => decide (t.columns ≠ ["role"])) = false := by
    simp [columns_roleTarget]
  unfold checkColumns
  dsimp only
  rw [keysOf_roleTargets hsome, hequal]
  rfl

/-! ## Planned batches -/

/-- The batch gives users new roles for the user: it lets those pass whose role the user may edit, and its text is
read to its end if the user's name has no null character. -/
structure RoleBatch (b : Batch) (user : String) (updates : List (String × String)) : Prop where
  edits : EditsRoles b user updates
  admits : ∀ {db : Database}, db.Meets schemas → ∀ u org role, b.fragment.admits db b.mapping.table
    b.identityPosition [.text u, .text org, .text role] = true ↔ (Deed.editRole u).Allowed db user
  runs : ∀ {db : Database}, db.Meets schemas →
    (b.fragment.runs db b.mapping.table = true ↔ '\x00' ∉ user.toList)

/-- A valid batch is planned for every user named by a text. -/
theorem exists_planned {hasEngine : Bool} {config given : Option Config} {sys : System}
    (hregistered : sys.globals.registry.lookup (.text "User") = .ok userMapping)
    (hvalid : checkTargets (given.getD sys.globals.config) (updates.map roleTarget) = .ok ()) (hsome : updates ≠ []) :
    ∃ b sys', planUpdate (evaluator .sqlite hasEngine config).toEvaluator given ⟨.text "User", .text user⟩
        (roleEdit (Service.updatesData updates)) sys = (.ok b, sys') ∧ RoleBatch b user updates := by
  obtain ⟨c, sql, hc, hsql, hreadable, hnull⟩ :=
    exists_userText hasEngine config ((evaluator .sqlite hasEngine config).configIn sys) user
      (by decide : "edit_role" ∈ Listing.readPermission :: userPermissions)
  rw [← roleEdit_targets] at hvalid
  have hcolumns := checkColumns_roleTargets hsome
  rw [← roleEdit_targets] at hcolumns
  obtain ⟨b, sys', hplan, hmapping, hchange, hfragment⟩ := exists_planUpdate hregistered hvalid hcolumns hc hsql
  have hcompiled : Compiled (evaluator .sqlite hasEngine config) ((evaluator .sqlite hasEngine config).configIn sys)
      ⟨.text "User", .text user⟩ (roleEdit (Service.updatesData updates)) b c :=
    ⟨hc, ⟨sql, by rw [hmapping]; exact hsql⟩, by rw [hfragment]; rfl⟩
  refine ⟨b, sys', hplan, editsRoles_of_planned (planned_of_planUpdate hplan) hmapping hchange,
    fun h u org role => admits_iff_allowed h hmapping hcompiled, ?_⟩
  intro db h
  have hruns : c.runs db = true := Deed.runs_of_condition (d := .editRole "") hc h
  have hwhole : b.fragment.isWhole = !sql.toList.contains '\x00' := by rw [hfragment]; rfl
  have hparts : b.fragment.runs db b.mapping.table = (b.fragment.isWhole && c.isReadable && c.runs db &&
      (!c.mentionsTarget || isUsableRef users "users.username")) := by rw [hfragment, hmapping]; rfl
  rw [hparts, hwhole, hreadable, hruns, isUsableRef_users, ← hnull]
  simp

/-! ## What a batch comes to -/

section Outcome

variable (hb : RoleBatch b user updates)

include hb

theorem binds_identityLiterals : ∀ l ∈ b.identityLiterals, l.Binds := by
  intro l hl
  have hnames : ∀ i ∈ (updates.map roleTarget).map (·.identity), ∃ name, i = .text name := by
    intro i hi
    rw [List.map_map] at hi
    obtain ⟨entry, _, rfl⟩ := List.mem_map.mp hi
    exact ⟨entry.1, rfl⟩
  unfold identityLiterals at hl
  rw [hb.edits.targets] at hl
  dsimp only at hl
  split at hl
  all_goals
    obtain ⟨i, hi, rfl⟩ := List.mem_map.mp hl
    obtain ⟨name, rfl⟩ := hnames i hi
  · exact ⟨rfl, rfl⟩
  · obtain ⟨entry, rest, rfl⟩ := List.exists_cons_of_ne_nil (fun hnone : updates = [] => by simp [hnone] at hi)
    exact ⟨rfl, rfl⟩

/-- The values of the statement are names and roles, which can be bound. -/
theorem binds_literals : ∀ l ∈ b.literals, l.Binds := by
  have hconstants : b.constants = [] := by simp [constants, hb.edits.change]
  have hkeys : b.keys = keysOf (updates.map roleTarget) := by simp [keys, hb.edits.change, hb.edits.targets]
  intro l hl
  simp only [literals, hconstants, hkeys, hb.edits.targets, hb.edits.excluded, List.map_nil, List.nil_append,
    List.mem_append, List.mem_flatMap, List.mem_map, List.mem_cons, List.not_mem_nil, or_false, Option.map_some,
    Option.toList_some] at hl
  rcases hl with (⟨k, hk, _, ⟨entry, hentry, rfl⟩, rfl | rfl⟩ | hl) | rfl
  · exact ⟨rfl, rfl⟩
  · rw [keysOf_roleTargets (List.ne_nil_of_mem hentry)] at hk
    obtain rfl := List.mem_singleton.mp hk
    unfold columnLiteral
    rw [hb.edits.mapping]
    exact ⟨rfl, rfl⟩
  · exact binds_identityLiterals hb l hl
  · exact ⟨rfl, rfl⟩

variable (h : db.Meets schemas)

include h

theorem allPermitted_iff (hnodup : (updates.map (·.1)).Nodup) : b.AllPermitted db (db.rows users.name) ↔
    ∀ entry ∈ updates, (Deed.editRole entry.1).Allowed db user ∧ entry.1 ≠ user := by
  refine ⟨allowed_of_allPermitted hb.edits h (hb.admits h), fun hallowed => ⟨?_, ?_⟩⟩
  · intro t ht
    rw [hb.edits.targets] at ht
    obtain ⟨entry, hentry, rfl⟩ := List.mem_map.mp ht
    obtain ⟨hallowed, hother⟩ := hallowed entry hentry
    obtain ⟨org, ⟨role, hu⟩, _⟩ := id hallowed
    refine ⟨_, hu, (isNamed_iff hb.edits).mpr rfl, ?_, (hb.admits h _ _ _).mpr hallowed⟩
    intro self hself
    obtain rfl := Option.some.inj (hself.symm.trans hb.edits.excluded)
    exact Bool.eq_false_iff.mpr fun hown => hother ((isNamed_iff hb.edits).mp hown)
  · rw [hb.edits.targets, List.pairwise_map]
    refine (List.pairwise_map.mp hnodup).imp ?_
    rintro x y hne row hrow ⟨hx, hy⟩
    obtain ⟨u, org, role, _, rfl⟩ := (mem_users_iff h).mp hrow
    exact hne (((isNamed_iff hb.edits).mp hx).symm.trans ((isNamed_iff hb.edits).mp hy))

/-- New roles for users that are there leave everything that refers to them in place. -/
theorem admissible_of_allPermitted (hrefs : db.isConsistent = true)
    (hroles : ∀ entry ∈ updates, entry.2 ∈ organizationRoles)
    (hall : b.AllPermitted db (db.rows users.name)) : b.Admissible db := by
  have hmember : users ∈ schemas := by decide
  obtain ⟨made, hmade⟩ := h.exists_update names_nodup hmember (rowNumber_not_null hmember)
    fun row hrow hreached => accepts_updatedByChoice hb.edits h hall hroles hrow hreached
  obtain ⟨hreplaced, hmeets⟩ := h.update names_nodup hmember hmade
  have hsame : Untouched [organizations, documents, documentUserRoles] db made :=
    untouched_of_replaced hreplaced (by decide)
  have hrefers := (isConsistent_iff h).mp hrefs
  have hmade' := hmeets fun row hrow hreached =>
    (accepts_updatedByChoice hb.edits h hall hroles hrow hreached).1
  refine ⟨made, _, (apply_edited hb.edits).trans hmade, (isConsistent_iff hmade').mpr ?_⟩
  refine refers_of_changed_users hrefers (hsame.mono (by decide)) ?_ ?_
  · intro u o r hu
    rcases (hasUser_iff_of_replaced hb.edits h hall hreplaced).mp hu with ⟨_, _, hold⟩ | ⟨hold, _⟩
    · exact hrefers.users _ _ _ hold
    · exact hrefers.users _ _ _ hold
  · rintro d u r hg
    refine ⟨(hsame.hasGrant_iff (by decide)).mp hg, ?_⟩
    rintro ⟨o, r', hu⟩
    by_cases hnamed : ∃ role, (u, role) ∈ updates
    · obtain ⟨role, hentry⟩ := hnamed
      exact ⟨o, role, (hasUser_iff_of_replaced hb.edits h hall hreplaced).mpr (.inl ⟨hentry, r', hu⟩)⟩
    · exact ⟨o, r', (hasUser_iff_of_replaced hb.edits h hall hreplaced).mpr
        (.inr ⟨hu, fun role hentry => hnamed ⟨role, hentry⟩⟩)⟩

/-- A batch of new roles goes through exactly if the subject may edit the role of everybody it names, does not name
itself, and the condition's text is read to its end. -/
theorem exists_outcome_iff {others : List Link} (hrefs : db.isConsistent = true)
    (hunlocked : others.any Link.isWriting = false) (hread : others.any Link.isReading = false)
    (hnodup : (updates.map (·.1)).Nodup) (hroles : ∀ entry ∈ updates, entry.2 ∈ organizationRoles) :
    (∃ n, (b.outcome others db).1 = .ok n) ↔ '\x00' ∉ user.toList ∧
      ∀ entry ∈ updates, (Deed.editRole entry.1).Allowed db user ∧ entry.1 ≠ user := by
  have htable := table?_edited hb.edits h
  have hplain := isPlain_targets hb.edits
  have hdistinct := distinct_users hb.edits h
  have hbinds := binds_literals hb
  rw [← allPermitted_iff hb h hnodup, ← hb.runs h]
  constructor
  · rintro ⟨n, hn⟩
    obtain ⟨hruns, hall, _⟩ := outcome_of_ok htable hplain hdistinct hn
    exact ⟨hruns.acceptable.runs, hall.permitted⟩
  · rintro ⟨hruns, hall⟩
    have hacceptable : b.Acceptable db :=
      ⟨Condition.bindFault?_eq_none hbinds, hruns, Condition.allFit_of_binds hbinds⟩
    have hadmissible := admissible_of_allPermitted hb h hrefs hroles hall
    exact exists_outcome_eq_ok htable hplain hdistinct ⟨rfl, hunlocked, hacceptable, hadmissible⟩
      ⟨hall, inTurn_of_update (by simp [hb.edits.change])⟩ hread

/-- A batch of new roles that does not go through fails with a fault of the authorization system. -/
theorem isAuthz_of_outcome {others : List Link} {f : Fault} (hf : (b.outcome others db).1 = .error f) :
    f.isAuthz = true := by
  have hfits : Condition.allFit b.literals = true := Condition.allFit_of_binds (binds_literals hb)
  obtain ⟨_, hdenied, hfailed⟩ :=
    outcome_of_error (table?_edited hb.edits h) (isPlain_targets hb.edits) (distinct_users hb.edits h) hf
  by_cases hrefused : b.Runs true others db ∧ ¬b.ReachesAll db ⟨users, db.rows users.name⟩
  · rw [hdenied hrefused]
    rfl
  · rcases hfailed hrefused with rfl | ⟨_, hnot⟩
    · rfl
    · simp [hfits] at hnot

end Outcome

end RowGuard.Records
