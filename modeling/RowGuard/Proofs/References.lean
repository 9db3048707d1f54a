import RowGuard.Proofs.Lasting

/-!
# References

References lead somewhere in what is stored, in what the connection's transaction sees, and in what it has seen
at every savepoint (`System.Consistent`). This lasts (`System.lasting_consistent`): whatever services are called,
no row is ever left that refers to one that is gone.
-/

namespace RowGuard

open Sys

/-- The transaction has references checked at the end of every statement, and has seen none that leads nowhere. -/
structure Transaction.Checked (t : Transaction) : Prop where
  atOnce : t.deferred = false
  view : ∀ db, t.view = some db → db.isConsistent = true
  marks : ∀ db, some db ∈ t.marks → db.isConsistent = true

/-- The transaction of the connection, if there is one, has references checked. -/
def Link.Checked (l : Link) : Prop := ∀ t, l.transaction = some t → t.Checked

/-- References lead somewhere in what is stored and in whatever the connection has seen. -/
structure System.Consistent (sys : System) : Prop where
  stored : sys.disk.isConsistent = true
  link : ∀ l, sys.link = some l → l.Checked

namespace Transaction.Checked

variable {t : Transaction}

theorem new : ({} : Transaction).Checked := ⟨rfl, by simp, by simp⟩

/-- A transaction without savepoints inside a certain one has seen no more. -/
theorem marksBelow (h : t.Checked) (depth : Nat) :
    Checked { t with marks := Link.marksBelow depth t.marks } :=
  ⟨h.atOnce, h.view, fun db hdb => h.marks db (List.mem_of_mem_drop hdb)⟩

theorem mark (h : t.Checked) : Checked { t with marks := t.view :: t.marks } := by
  refine ⟨h.atOnce, h.view, ?_⟩
  intro db hdb
  rcases List.mem_cons.mp hdb with hview | hmark
  · exact h.view db hview.symm
  · exact h.marks db hmark

/-- What is seen again was seen before. -/
theorem undone (h : t.Checked) (depth : Nat) :
    Checked { t with
      view := (t.marks[t.marks.length - depth]?).getD t.view
      marks := Link.marksBelow depth t.marks } := by
  refine ⟨h.atOnce, ?_, (h.marksBelow depth).marks⟩
  intro db hdb
  cases hmark : t.marks[t.marks.length - depth]? with
  | none =>
    simp only [hmark, Option.getD_none] at hdb
    exact h.view db hdb
  | some view =>
    simp only [hmark, Option.getD_some] at hdb
    exact h.marks db (hdb ▸ List.mem_of_getElem? hmark)

theorem getD (h : t.Checked) {disk : Database} (hdisk : disk.isConsistent = true) :
    (t.view.getD disk).isConsistent = true := by
  cases hview : t.view with
  | none => exact hdisk
  | some db => exact h.view db hview

end Transaction.Checked

/-! ## Connections -/

namespace Link

variable {α : Type} {l l' : Link} {disk : Database} {others : List Link} {st : Statement α}

theorem checked_of_none (h : l.transaction = none) : l.Checked := by
  intro t ht
  rw [h] at ht
  simp at ht

theorem checked_of_some {t : Transaction} (hl : l.transaction = some t) (h : t.Checked) : l.Checked := by
  intro t' ht'
  obtain rfl := Option.some.inj (hl.symm.trans ht')
  exact h

theorem Checked.of_transaction (h : l.Checked) (heq : l'.transaction = l.transaction) : l'.Checked :=
  fun t ht => h t (heq ▸ ht)

theorem transaction_touch (l : Link) : l.touch.2.transaction = l.transaction := by
  unfold touch
  cases l.health with
  | lost =>
    dsimp only
    split <;> rfl
  | _ => rfl

theorem Checked.touch (h : l.Checked) : l.touch.2.Checked := h.of_transaction l.transaction_touch

theorem Checked.view (h : l.Checked) (hdisk : disk.isConsistent = true) : (l.view disk).isConsistent = true := by
  unfold Link.view
  split
  case isFalse => exact hdisk
  case isTrue =>
    cases ht : l.transaction with
    | none => exact hdisk
    | some t => exact (h t ht).getD hdisk

theorem Checked.begin (h : l.Checked) : l.begin.2.Checked := by
  have htouched := h.touch
  unfold Link.begin
  cases l.stage with
  | failed => exact h
  | abandoned => exact checked_of_none rfl
  | running =>
    obtain ⟨outcome, l', htouch⟩ : ∃ outcome l', l.touch = (outcome, l') := ⟨_, _, rfl⟩
    rw [htouch] at htouched ⊢
    cases outcome with
    | error e => exact htouched
    | ok _ =>
      dsimp only at htouched ⊢
      cases ht : l'.transaction with
      | none => exact checked_of_some rfl .new
      | some t => exact checked_of_some rfl (htouched t ht).mark

theorem Checked.rollback (h : l.Checked) (handle : Handle) : (l.rollback handle).2.Checked := by
  unfold Link.rollback
  cases handle with
  | outermost =>
    cases l.stage with
    | failed =>
      dsimp only
      split
      case isTrue => exact h
      case isFalse => exact checked_of_none rfl
    | abandoned => exact h
    | running =>
      dsimp only
      split <;> exact checked_of_none rfl
  | savepoint depth =>
    have hundone : ∀ t, (l.transaction.map fun t => { t with
        view := (t.marks[t.marks.length - depth]?).getD t.view
        marks := marksBelow depth t.marks }) = some t → t.Checked := by
      intro t ht
      obtain ⟨t', ht', rfl⟩ := Option.map_eq_some_iff.mp ht
      exact (h t' ht').undone depth
    dsimp only
    split
    case isTrue => exact h
    case isFalse => split <;> exact hundone

/-- What is committed is what was seen. -/
theorem Checked.commit (h : l.Checked) (hdisk : disk.isConsistent = true) (others : List Link) (handle : Handle) :
    (l.commit disk others handle).2.1.Checked ∧ (l.commit disk others handle).2.2.isConsistent = true := by
  have htouched := h.touch
  unfold Link.commit
  split
  case isTrue => exact ⟨h, hdisk⟩
  case isFalse =>
    obtain ⟨outcome, l', htouch⟩ : ∃ outcome l', l.touch = (outcome, l') := ⟨_, _, rfl⟩
    rw [htouch] at htouched ⊢
    cases outcome with
    | error e =>
      cases handle with
      | outermost => exact ⟨htouched, hdisk⟩
      | savepoint depth => exact ⟨htouched, hdisk⟩
    | ok _ =>
      cases handle with
      | outermost =>
        dsimp only
        split
        case isTrue => exact ⟨htouched, hdisk⟩
        case isFalse =>
          split
          case isTrue => exact ⟨htouched, hdisk⟩
          case isFalse => exact ⟨checked_of_none rfl, htouched.view hdisk⟩
      | savepoint depth =>
        refine ⟨?_, hdisk⟩
        intro t ht
        obtain ⟨t', ht', rfl⟩ := Option.map_eq_some_iff.mp ht
        exact (htouched t' ht').marksBelow depth

/-- A statement that leaves a reference leading nowhere is undone. -/
theorem Checked.execute (h : l.Checked) (hdisk : disk.isConsistent = true) (hst : st.Prompt) (others : List Link) :
    (l.execute disk others st).2.Checked := by
  have htouched := h.touch
  unfold Link.execute
  obtain ⟨outcome, l', htouch⟩ : ∃ outcome l', l.touch = (outcome, l') := ⟨_, _, rfl⟩
  rw [htouch] at htouched ⊢
  cases outcome with
  | error e => exact htouched
  | ok _ =>
    cases st.refused with
    | some e => exact htouched
    | none =>
      cases hstage : l'.stage with
      | failed => simpa only [hstage] using htouched
      | abandoned =>
        simp only [hstage]
        exact checked_of_none rfl
      | running =>
        have hchecked : (l'.transaction.getD {}).Checked := by
          cases ht : l'.transaction with
          | none => exact .new
          | some t => exact htouched t ht
        have hseen := hchecked.getD hdisk
        -- the transaction goes on with what it has seen or with what the statement has made of that
        have hgoes : ∀ (db : Database) (writes : Bool), db.isConsistent = true → Transaction.Checked
            { l'.transaction.getD {} with
              view := some db
              writes := (l'.transaction.getD {}).writes || writes
              deferred := (l'.transaction.getD {}).deferred || st.defers } := by
          intro db writes hdb
          refine ⟨?_, fun db' hdb' => Option.some.inj hdb' ▸ hdb, hchecked.marks⟩
          simp [hchecked.atOnce, hst.checks]
        simp only [hstage]
        split
        case isTrue => exact checked_of_some rfl (hgoes _ false hseen)
        case isFalse =>
          cases hrun : st.run ((l'.transaction.getD {}).view.getD disk) with
          | error f => exact checked_of_some rfl (hgoes _ st.writes hseen)
          | ok made =>
            obtain ⟨a, db⟩ := made
            dsimp only
            split
            case isFalse => exact checked_of_some rfl (hgoes _ st.writes hseen)
            case isTrue hpasses =>
              refine checked_of_some rfl (hgoes db st.writes ?_)
              simp only [hchecked.atOnce, hst.checks, Bool.or_false, Bool.false_or, Bool.or_eq_true,
                Bool.not_eq_true'] at hpasses
              rcases hpasses with hreads | hconsistent
              · rw [hst.reads hreads _ _ _ hrun]
                exact hseen
              · exact hconsistent

end Link

/-! ## The system -/

/-- That references lead somewhere is a property that lasts. -/
theorem System.lasting_consistent : System.Lasting System.Consistent where
  of_same h hdisk hlink _ := ⟨hdisk ▸ h.stored, hlink ▸ h.link⟩
  fresh h := ⟨h.stored, fun _ hl => Option.some.inj hl ▸ Link.checked_of_none rfl⟩
  returned h hafter := ⟨hafter.stored, h.link⟩
  begins hl h := ⟨h.stored, fun _ hl' => Option.some.inj hl' ▸ (h.link _ hl).begin⟩
  commits handle hl h :=
    have hcommitted := (h.link _ hl).commit h.stored _ handle
    ⟨hcommitted.2, fun _ hl' => Option.some.inj hl' ▸ hcommitted.1⟩
  rollsBack handle hl h := ⟨h.stored, fun _ hl' => Option.some.inj hl' ▸ (h.link _ hl).rollback handle⟩
  executes hst hl h := ⟨h.stored, fun _ hl' => Option.some.inj hl' ▸ (h.link _ hl).execute h.stored hst _⟩

/-- What is seen through a bind has no reference that leads nowhere. -/
theorem System.Consistent.view {sys : System} (h : sys.Consistent) (bind : Bind) :
    (bind.view sys).isConsistent = true := by
  cases bind with
  | engine _ => exact h.stored
  | connection =>
    show sys.seen.isConsistent = true
    cases hl : sys.link with
    | none =>
      unfold System.seen
      rw [hl]
      exact h.stored
    | some l =>
      rw [System.seen_of_some hl]
      exact (h.link l hl).view h.stored

namespace Records

variable {db : Database}

/-- References that lead somewhere still do when tables are added. -/
theorem isConsistent_withTables (h : db.isConsistent = true) : (withTables db).isConsistent = true := by
  have hresolves : ∀ r v, db.resolves r v = true → (withTables db).resolves r v = true := by
    intro r v hv
    unfold Database.resolves at hv ⊢
    cases htable : db.table? r.table with
    | none =>
      have hnull : v = .null := by simpa [htable] using hv
      rw [hnull]
      rfl
    | some parent =>
      have hsame : (withTables db).table? r.table = some parent := by
        unfold withTables Database.table? at *
        rw [List.find?_append, htable]
        rfl
      rw [hsame]
      rwa [htable] at hv
  unfold Database.isConsistent at h ⊢
  rw [List.all_eq_true] at h ⊢
  intro t ht
  rcases List.mem_append.mp ht with hold | hnew
  · refine List.all_eq_true.mpr fun row hrow => List.all_eq_true.mpr ?_
    rintro ⟨c, v⟩ hentry
    have hentries := List.all_eq_true.mp (List.all_eq_true.mp (h t hold) row hrow) _ hentry
    dsimp only at hentries ⊢
    cases hreference : c.reference with
    | none => rfl
    | some r =>
      simp only [hreference, Option.all_some] at hentries ⊢
      exact hresolves r v hentries
  · obtain ⟨s, _, rfl⟩ := List.mem_map.mp hnew
    rfl

theorem keepsConsistent_createTables (bind : Bind) : Keeps System.Consistent (createTables bind) := by
  unfold createTables
  split
  case h_1 => exact Keeps.throw _
  case h_2 => exact fun _ h => ⟨isConsistent_withTables h.stored, h.link⟩

end Records

end RowGuard
