import RowGuard.Proofs.Database.Change
import RowGuard.Proofs.Records.Deeds
import RowGuard.Records.Documents
import RowGuard.Records.Organizations
import RowGuard.Records.Users

/-!
# What statements make of the tables

Each statement of a records service, when it has run, leaves a database that meets the application's schemas. Which
organizations, users, documents and roles there are afterwards is said here one statement at a time; tables that
a statement does not speak of keep their rows (`Untouched`).
-/

namespace RowGuard.Records

open Link.Statement

variable {db made : Database} {tables : List Schema} {s : Schema} {rows : List Row} {n : Nat}

/-- The tables have the same rows as before. -/
def Untouched (tables : List Schema) (db made : Database) : Prop :=
  ∀ s ∈ tables, made.rows s.name = db.rows s.name

instance : Decidable (Untouched tables db made) := inferInstanceAs (Decidable (∀ s ∈ tables, _))

theorem Untouched.mono (h : Untouched tables db made) {fewer : List Schema} (hsub : fewer ⊆ tables) :
    Untouched fewer db made :=
  fun s hs => h s (hsub hs)

theorem Untouched.trans {last : Database} (h : Untouched tables db made) (h' : Untouched tables made last) :
    Untouched tables db last :=
  fun s hs => (h' s hs).trans (h s hs)

section Untouched

variable (h : Untouched tables db made)

include h

theorem Untouched.hasOrganization_iff {org : String} (hmem : organizations ∈ tables) :
    HasOrganization made org ↔ HasOrganization db org := by
  rw [HasOrganization, h organizations hmem]
  rfl

theorem Untouched.hasUser_iff {u o r : String} (hmem : users ∈ tables) :
    HasUser made u o r ↔ HasUser db u o r := by
  rw [HasUser, h users hmem]
  rfl

theorem Untouched.hasDocument_iff {d : Int} {o t : String} {p : Bool} (hmem : documents ∈ tables) :
    HasDocument made d o t p ↔ HasDocument db d o t p := by
  rw [HasDocument, h documents hmem]
  rfl

theorem Untouched.hasGrant_iff {d : Int} {u r : String} (hmem : documentUserRoles ∈ tables) :
    HasGrant made d u r ↔ HasGrant db d u r := by
  rw [HasGrant, h documentUserRoles hmem]
  rfl

end Untouched

theorem untouched_of_replaced (h : db.Replaced s rows made) (hothers : ∀ s' ∈ tables, s'.name ≠ s.name) :
    Untouched tables db made :=
  fun s' hs' => h.others s'.name (hothers s' hs')

/-! ## Insertions -/

/-- The row that is added for a user. -/
theorem newRow_user (rows : List Row) (username org role : String) :
    Database.newRow ⟨users, rows⟩
      (Assignments.bound users [("username", .text username), ("org", .text org), ("role", .text role)]) =
      [.text username, .text org, .text role] := rfl

section Insertions

variable (h : db.Meets schemas)

include h

theorem run_insertOrganization {name : String}
    (hrun : (Link.Statement.insert organizations [("name", .text name)]).run db = .ok ((), made)) :
    made.Meets schemas ∧ (∀ org, HasOrganization made org ↔ HasOrganization db org ∨ org = name) ∧
      Untouched [users, documents, documentUserRoles] db made := by
  have hrow : Database.newRow ⟨organizations, db.rows organizations.name⟩
      (Assignments.bound organizations [("name", .text name)]) = [.text name] := by rfl
  obtain ⟨hreplaced, hmeets⟩ := h.insert names_nodup (by decide : organizations ∈ schemas)
    (insert_run_eq_ok hrun)
  rw [hrow] at hreplaced hmeets
  refine ⟨hmeets (accepts_organizations_iff.mpr ⟨name, rfl⟩), ?_, untouched_of_replaced hreplaced (by decide)⟩
  intro org
  rw [HasOrganization, hreplaced.own]
  simp [HasOrganization]

theorem run_insertUser {username org role : String} (hrole : role ∈ organizationRoles)
    (hrun : (Link.Statement.insert users
      [("username", .text username), ("org", .text org), ("role", .text role)]).run db = .ok ((), made)) :
    made.Meets schemas ∧
      (∀ u o r, HasUser made u o r ↔ HasUser db u o r ∨ u = username ∧ o = org ∧ r = role) ∧
      Untouched [organizations, documents, documentUserRoles] db made := by
  obtain ⟨hreplaced, hmeets⟩ := h.insert names_nodup (by decide : users ∈ schemas) (insert_run_eq_ok hrun)
  rw [newRow_user] at hreplaced hmeets
  refine ⟨hmeets (accepts_users_iff.mpr ⟨username, org, role, hrole, rfl⟩), ?_,
    untouched_of_replaced hreplaced (by decide)⟩
  intro u o r
  rw [HasUser, hreplaced.own]
  simp [HasUser]

/-- A user is added under a name that was not in use. -/
theorem unused_of_insertUser {username org role : String} (hrole : role ∈ organizationRoles)
    (hrun : (Link.Statement.insert users
      [("username", .text username), ("org", .text org), ("role", .text role)]).run db = .ok ((), made)) :
    ∀ o, ¬IsMember db username o := by
  have husers : users ∈ schemas := by decide
  obtain ⟨hreplaced, hmeets⟩ := h.insert names_nodup husers (insert_run_eq_ok hrun)
  rw [newRow_user] at hreplaced hmeets
  have hmade := hmeets (accepts_users_iff.mpr ⟨username, org, role, hrole, rfl⟩)
  rintro o ⟨r, hu⟩
  exact hmade.keyOf_ne_of_added names_nodup husers ⟨_, List.mem_cons_self, rfl⟩ hreplaced.own _ hu rfl

/-- A role is given to whom a subject of this identity names. -/
theorem run_insertGrant {s : Subject} {user : String} (hs : Names s user) {document : Int} {role : String}
    (hrole : role ∈ documentRoles)
    (hrun : (Link.Statement.insert documentUserRoles
      [("document_id", .int document), ("username", s.id), ("role", .text role)]).run db = .ok ((), made)) :
    made.Meets schemas ∧
      (∀ d u r, HasGrant made d u r ↔ HasGrant db d u r ∨ d = document ∧ u = user ∧ r = role) ∧
      Untouched [organizations, users, documents] db made := by
  have hrow : Database.newRow ⟨documentUserRoles, db.rows documentUserRoles.name⟩
      (Assignments.bound documentUserRoles
        [("document_id", .int document), ("username", s.id), ("role", .text role)]) =
      [.int document, .text user, .text role] := by
    cases hs <;> rfl
  have hfits := List.all_eq_true.mp (bound_run_eq_ok hrun).2 _ List.mem_cons_self
  obtain ⟨hreplaced, hmeets⟩ := h.insert names_nodup (by decide : documentUserRoles ∈ schemas)
    (insert_run_eq_ok hrun)
  rw [hrow] at hreplaced hmeets
  refine ⟨hmeets (accepts_documentUserRoles_iff.mpr ⟨document, user, role, hrole, hfits, rfl⟩), ?_,
    untouched_of_replaced hreplaced (by decide)⟩
  intro d u r
  rw [HasGrant, hreplaced.own]
  simp [HasGrant]

/-- A document is added under a number that was not in use. -/
theorem run_insertDocument {org title : String} {stored : Value}
    (hrun : (insertReturning documents [("org", .text org), ("title", .text title)] "id").run db =
      .ok (stored, made)) :
    ∃ id, stored = .int id ∧ (Value.isStorable id = true →
      made.Meets schemas ∧ (∀ o t p, ¬HasDocument db id o t p) ∧
        (∀ d o t p, HasDocument made d o t p ↔
          HasDocument db d o t p ∨ d = id ∧ o = org ∧ t = title ∧ p = false) ∧
        Untouched [organizations, users, documentUserRoles] db made) := by
  obtain ⟨hinsert, hstored⟩ := insertReturning_run_eq_ok hrun
  obtain ⟨id, hrow⟩ : ∃ id, Database.newRow ⟨documents, db.rows documents.name⟩
      (Assignments.bound documents [("org", .text org), ("title", .text title)]) =
      [.int id, .text org, .text title, .int (if false then 1 else 0)] := ⟨_, rfl⟩
  have hdocuments : documents ∈ schemas := by decide
  obtain ⟨hreplaced, hmeets⟩ := h.insert names_nodup hdocuments hinsert
  rw [hrow] at hreplaced hmeets
  refine ⟨id, ?_, fun hfits => ?_⟩
  · rw [hstored, hreplaced.own, List.getLast?_concat]
    rfl
  · have hmade := hmeets (accepts_documents_iff.mpr ⟨id, org, title, false, hfits, rfl⟩)
    refine ⟨hmade, ?_, ?_, untouched_of_replaced hreplaced (by decide)⟩
    · intro o t p hd
      exact hmade.keyOf_ne_of_added names_nodup hdocuments ⟨_, List.mem_cons_self, rfl⟩ hreplaced.own _ hd rfl
    · intro d o t p
      rw [HasDocument, hreplaced.own]
      cases p <;> simp [HasDocument]

end Insertions

/-! ## Changes of rows -/

/-- Publishing a document, or taking that back, changes nothing else of it. -/
theorem run_publish (h : db.Meets schemas) {id : Int} {isPublic : Bool}
    (hrun : (update documents [("id", .int id)] [("public", .bool isPublic)]).run db = .ok (n, made)) :
    made.Meets schemas ∧
      (∀ d o t p, HasDocument made d o t p ↔
        d ≠ id ∧ HasDocument db d o t p ∨ d = id ∧ p = isPublic ∧ ∃ p', HasDocument db d o t p') ∧
      Untouched [organizations, users, documentUserRoles] db made := by
  have hdocuments : documents ∈ schemas := by decide
  have hpasses : ∀ d o t (p : Bool), Assignments.hold documents [("id", .int id)]
      [.int d, .text o, .text t, .int (if p then 1 else 0)] = decide (d = id) := fun d o t p => Bool.and_true _
  have hwritten : ∀ d o t (p : Bool), documents.stored (Assignments.write documents [("public", .bool isPublic)]
      [.int d, .text o, .text t, .int (if p then 1 else 0)]) =
      [.int d, .text o, .text t, .int (if isPublic then 1 else 0)] := fun _ _ _ _ => rfl
  obtain ⟨hreplaced, hmeets⟩ := h.update names_nodup hdocuments (update_run_eq_ok hrun)
  refine ⟨hmeets ?_, ?_, untouched_of_replaced hreplaced (by decide)⟩
  · intro row hrow _
    obtain ⟨d, o, t, p, hfits, rfl⟩ := accepts_documents_iff.mp (h.accepts_of_mem names_nodup hdocuments hrow)
    exact accepts_documents_iff.mpr ⟨d, o, t, isPublic, hfits, hwritten d o t p⟩
  · intro d o t p
    rw [HasDocument, hreplaced.own, List.mem_map, exists_mem_documents_iff h]
    constructor
    · rintro ⟨d', o', t', p', hd, heq⟩
      rw [hpasses, hwritten] at heq
      by_cases hid : d' = id
      · simp only [hid, decide_true, if_true, List.cons.injEq, Value.int.injEq, Value.text.injEq] at heq
        obtain ⟨rfl, rfl, rfl, hp, _⟩ := heq
        exact .inr ⟨rfl, by cases p <;> cases isPublic <;> simp_all, p', hid ▸ hd⟩
      · simp only [hid, decide_false, Bool.false_eq_true, if_false] at heq
        have hrow : [Value.int d', .text o', .text t', .int (if p' then 1 else 0)] ∈ db.rows documents.name := hd
        rw [heq] at hrow
        simp only [List.cons.injEq, Value.int.injEq] at heq
        exact .inl ⟨heq.1 ▸ hid, hrow⟩
    · rintro (⟨hid, hd⟩ | ⟨rfl, rfl, p', hd⟩)
      · exact ⟨d, o, t, p, hd, by simp [hpasses, hid]⟩
      · exact ⟨d, o, t, p', hd, by simp [hpasses, hwritten]⟩

/-! ## Deletions -/

section Deletions

/-- Only roles on documents go with other rows. -/
theorem eq_documentUserRoles_of_follows {d e : Schema × Row} (he : e.1 ∈ schemas)
    (hfollows : Database.follows d e = true) : e.1 = documentUserRoles := by
  by_contra hne
  have hstays : ∀ s ∈ schemas, s ≠ documentUserRoles →
      ∀ c ∈ s.columns, ∀ r, c.reference = some r → r.cascades = false := by decide
  obtain ⟨⟨c, v⟩, hentry, hany⟩ := List.any_eq_true.mp hfollows
  obtain ⟨r, hr, hleads⟩ := Option.any_eq_true _ _ |>.mp hany
  rw [hstays e.1 he hne c (List.of_mem_zip hentry).1 r hr] at hleads
  simp at hleads

/-- Nothing goes with a role on a document. -/
theorem follows_documentUserRoles {row : Row} {e : Schema × Row} (he : e.1 ∈ schemas) :
    Database.follows (documentUserRoles, row) e = false := by
  have helsewhere : ∀ s ∈ schemas, ∀ c ∈ s.columns, ∀ r, c.reference = some r →
      (r.table == documentUserRoles.name) = false := by decide
  by_contra hfollows
  obtain ⟨⟨c, v⟩, hentry, hany⟩ := List.any_eq_true.mp (Bool.not_eq_false _ ▸ hfollows)
  obtain ⟨r, hr, hleads⟩ := Option.any_eq_true _ _ |>.mp hany
  simp [Database.leadsTo, helsewhere e.1 he c (List.of_mem_zip hentry).1 r hr] at hleads

variable (h : db.Meets schemas)

include h

theorem goes_iff {start : List (Schema × Row)} {e : Schema × Row} :
    db.Goes start e ↔ e ∈ start ∨ e ∈ db.entries ∧ ∃ d ∈ start, Database.follows d e = true := by
  refine Database.goes_iff_of_short ?_
  intro d e hentry hfollows e' hentry'
  have hgrant := eq_documentUserRoles_of_follows ((h.mem_entries_iff names_nodup).mp hentry).1 hfollows
  obtain ⟨s, row⟩ := e
  obtain rfl : s = documentUserRoles := hgrant
  exact follows_documentUserRoles ((h.mem_entries_iff names_nodup).mp hentry').1

/-- A deletion takes the rows that pass its filter and the roles on documents that go with these. -/
theorem run_delete (hs : s ∈ schemas) {filter : Assignments} (hrun : (delete s filter).run db = .ok (n, made)) :
    made.Meets schemas ∧
      (∀ s' ∈ schemas, ∀ row, row ∈ made.rows s'.name ↔ row ∈ db.rows s'.name ∧
        ¬(s' = s ∧ filter.hold s row = true) ∧
        ∀ old ∈ db.rows s.name, filter.hold s old = true → Database.follows (s, old) (s', row) = false) ∧
      Untouched (schemas.filter fun s' => s' ≠ s ∧ s' ≠ documentUserRoles) db made := by
  obtain ⟨hmeets, deleted, rfl, hdeleted⟩ := h.delete names_nodup hs (delete_run_eq_ok hrun)
  have hgone : ∀ s' ∈ schemas, ∀ row ∈ db.rows s'.name, (s', row) ∈ deleted ↔
      s' = s ∧ filter.hold s row = true ∨
        ∃ old ∈ db.rows s.name, filter.hold s old = true ∧ Database.follows (s, old) (s', row) = true := by
    intro s' hs' row hrow
    have hentry : (s', row) ∈ db.entries := (h.mem_entries_iff names_nodup).mpr ⟨hs', hrow⟩
    rw [hdeleted, goes_iff h]
    simp only [List.mem_map, List.mem_filter, Prod.mk.injEq, hentry, true_and]
    constructor
    · rintro (⟨old, ⟨_, hpasses⟩, rfl, rfl⟩ | ⟨_, ⟨old, ⟨hold, hpasses⟩, rfl⟩, hfollows⟩)
      · exact .inl ⟨rfl, hpasses⟩
      · exact .inr ⟨old, hold, hpasses, hfollows⟩
    · rintro (⟨rfl, hpasses⟩ | ⟨old, hold, hpasses, hfollows⟩)
      · exact .inl ⟨row, ⟨hrow, hpasses⟩, rfl, rfl⟩
      · exact .inr ⟨_, ⟨old, ⟨hold, hpasses⟩, rfl⟩, hfollows⟩
  refine ⟨hmeets, ?_, ?_⟩
  · intro s' hs' row
    rw [Database.mem_rows_without (h.table?_eq names_nodup hs')]
    refine and_congr_right ?_
    intro hrow
    rw [hgone s' hs' row hrow, not_or]
    simp
  · intro s' hs'
    obtain ⟨hs', hothers⟩ := List.mem_filter.mp hs'
    obtain ⟨hne, hgrants⟩ := of_decide_eq_true hothers
    rw [Database.rows_without (h.table?_eq names_nodup hs'), List.filter_eq_self]
    intro row hrow
    have hkept : (s', row) ∉ deleted := by
      rw [hgone s' hs' row hrow]
      rintro (⟨heq, _⟩ | ⟨old, _, _, hfollows⟩)
      · exact hne heq
      · exact hgrants (eq_documentUserRoles_of_follows (e := (s', row)) hs' hfollows)
    simpa using hkept

/-- A user is deleted with the roles it held. -/
theorem run_deleteUser {username : String}
    (hrun : (delete users [("username", .text username)]).run db = .ok (n, made)) :
    made.Meets schemas ∧ (∀ u o r, HasUser made u o r ↔ HasUser db u o r ∧ u ≠ username) ∧
      (∀ d u r, HasGrant made d u r ↔
        HasGrant db d u r ∧ (u = username → ∀ org, ¬IsMember db username org)) ∧
      Untouched [organizations, documents] db made := by
  have hpasses : ∀ u o r, Assignments.hold users [("username", .text username)]
      [.text u, .text o, .text r] = decide (u = username) := fun u o r => Bool.and_true _
  have hfollows : ∀ u o r d u' r', Database.follows (users, [.text u, .text o, .text r])
      (documentUserRoles, [.int d, .text u', .text r']) = decide (u' = u) := fun u o r d u' r' => Bool.or_false _
  obtain ⟨hmeets, hrows, hsame⟩ := run_delete h (by decide : users ∈ schemas) hrun
  refine ⟨hmeets, ?_, ?_, hsame.mono (by decide)⟩
  · intro u o r
    rw [HasUser, hrows users (by decide)]
    refine and_congr_right fun _ => ?_
    rw [hpasses]
    constructor
    · rintro ⟨hkept, _⟩ rfl
      exact hkept ⟨rfl, decide_eq_true rfl⟩
    · intro hne
      exact ⟨fun hgone => hne (of_decide_eq_true hgone.2), fun old _ _ => rfl⟩
  · intro d u r
    rw [HasGrant, hrows documentUserRoles (by decide)]
    refine and_congr_right fun _ => ?_
    constructor
    · rintro ⟨_, hstays⟩ rfl org ⟨role, hu⟩
      have hgone := hstays _ hu (by rw [hpasses]; exact decide_eq_true rfl)
      rw [hfollows] at hgone
      exact of_decide_eq_false hgone rfl
    · intro hkept
      refine ⟨fun hgone => absurd hgone.1 (by decide), ?_⟩
      intro old hold hold'
      obtain ⟨u', o', r', hu, rfl⟩ := (mem_users_iff h).mp hold
      rw [hpasses] at hold'
      obtain rfl := of_decide_eq_true hold'
      rw [hfollows]
      exact decide_eq_false fun heq => hkept heq o' ⟨r', hu⟩

/-- A document is deleted with the roles held on it. -/
theorem run_deleteDocument {id : Int}
    (hrun : (delete documents [("id", .int id)]).run db = .ok (n, made)) :
    made.Meets schemas ∧ (∀ d o t p, HasDocument made d o t p ↔ HasDocument db d o t p ∧ d ≠ id) ∧
      (∀ d u r, HasGrant made d u r ↔ HasGrant db d u r ∧ (d = id → ∀ org, ¬BelongsTo db id org)) ∧
      Untouched [organizations, users] db made := by
  have hpasses : ∀ d o t (p : Bool), Assignments.hold documents [("id", .int id)]
      [.int d, .text o, .text t, .int (if p then 1 else 0)] = decide (d = id) := fun d o t p => Bool.and_true _
  have hfollows : ∀ d o t (p : Bool) d' u r,
      Database.follows (documents, [.int d, .text o, .text t, .int (if p then 1 else 0)])
        (documentUserRoles, [.int d', .text u, .text r]) = decide (d' = d) :=
    fun d o t p d' u r => Bool.or_false _
  obtain ⟨hmeets, hrows, hsame⟩ := run_delete h (by decide : documents ∈ schemas) hrun
  refine ⟨hmeets, ?_, ?_, hsame.mono (by decide)⟩
  · intro d o t p
    rw [HasDocument, hrows documents (by decide)]
    refine and_congr_right fun _ => ?_
    rw [hpasses]
    constructor
    · rintro ⟨hkept, _⟩ rfl
      exact hkept ⟨rfl, decide_eq_true rfl⟩
    · intro hne
      exact ⟨fun hgone => hne (of_decide_eq_true hgone.2), fun old _ _ => rfl⟩
  · intro d u r
    rw [HasGrant, hrows documentUserRoles (by decide)]
    refine and_congr_right fun _ => ?_
    constructor
    · rintro ⟨_, hstays⟩ rfl org ⟨title, isPublic, hd⟩
      have hgone := hstays _ hd (by rw [hpasses]; exact decide_eq_true rfl)
      rw [hfollows] at hgone
      exact of_decide_eq_false hgone rfl
    · intro hkept
      refine ⟨fun hgone => absurd hgone.1 (by decide), ?_⟩
      intro old hold hold'
      obtain ⟨d', o', t', p', hd, rfl⟩ := (mem_documents_iff h).mp hold
      rw [hpasses] at hold'
      obtain rfl := of_decide_eq_true hold'
      rw [hfollows]
      exact decide_eq_false fun heq => hkept heq o' ⟨t', p', hd⟩

/-- Deleting roles on documents leaves all else. -/
theorem run_deleteGrants {filter : Assignments} (hrun : (delete documentUserRoles filter).run db = .ok (n, made)) :
    made.Meets schemas ∧ (∀ d u r, HasGrant made d u r ↔ HasGrant db d u r ∧
      filter.hold documentUserRoles [.int d, .text u, .text r] = false) ∧
      Untouched [organizations, users, documents] db made := by
  obtain ⟨hmeets, hrows, hsame⟩ := run_delete h (by decide : documentUserRoles ∈ schemas) hrun
  refine ⟨hmeets, ?_, hsame.mono (by decide)⟩
  intro d u r
  rw [HasGrant, hrows documentUserRoles (by decide)]
  refine and_congr_right fun _ => ?_
  constructor
  · rintro ⟨hkept, _⟩
    exact Bool.eq_false_iff.mpr fun hpasses => hkept ⟨rfl, hpasses⟩
  · intro hkept
    refine ⟨fun hgone => Bool.eq_false_iff.mp hkept hgone.2, ?_⟩
    exact fun old _ _ => follows_documentUserRoles (by decide : documentUserRoles ∈ schemas)

end Deletions

end RowGuard.Records
