import RowGuard.Proofs.Session.Scope

/-!
# Writing in a transaction of its own

What a statement that writes comes to at the beginning of a transaction is `Link.Statement.tried`: it is
refused, or locked out by another connection, or fails, or makes of the stored database one whose references
lead somewhere. The connection then holds back what it has made (`Link.HasMade`). In a scope a statement, a
commit and a rollback end as they do on the connection, but a fault of the database is one of the operation.
-/

namespace RowGuard

namespace Link

variable {α : Type} {st : Statement α} {others : List Link} {db : Database}

/-- A connection on which a transaction was begun. -/
def begun : Link := { transaction := some {} }

/-- What a statement that writes comes to at the beginning of a transaction: its answer, and what it makes
of the database. -/
def Statement.tried (st : Statement α) (others : List Link) (db : Database) :
    Except Fault (α × Database) :=
  match st.refused with
  | some e => .error (.sql e)
  | none =>
    if others.any isWriting then .error (.sql .operational)
    else
      match st.run db with
      | .error f => .error f
      | .ok outcome =>
        if outcome.2.isConsistent then .ok outcome else .error (.sql .constraint)

theorem Statement.tried_eq_ok_iff {outcome : α × Database} :
    st.tried others db = .ok outcome ↔ st.refused = none ∧ others.any isWriting = false ∧
      st.run db = .ok outcome ∧ outcome.2.isConsistent = true := by
  unfold tried
  cases st.refused with
  | some e => simp
  | none =>
    cases others.any isWriting with
    | true => simp
    | false =>
      cases hrun : st.run db with
      | error f => simp
      | ok made =>
        simp only [Bool.false_eq_true, if_false, true_and, Except.ok.injEq]
        by_cases hconsistent : made.2.isConsistent = true
        · rw [if_pos hconsistent, Except.ok.injEq]
          constructor
          · rintro rfl
            exact ⟨rfl, hconsistent⟩
          · exact And.left
        · rw [if_neg hconsistent]
          constructor
          · intro h
            simp at h
          · rintro ⟨rfl, hmade⟩
            exact absurd hmade hconsistent

/-- A statement that fails does so in the database, or as it says itself. -/
theorem Statement.of_tried_eq_error {f : Fault} (h : st.tried others db = .error f) :
    f.isSql = true ∨ st.run db = .error f := by
  unfold tried at h
  cases hrefused : st.refused with
  | some e =>
    rw [hrefused] at h
    cases h
    exact .inl rfl
  | none =>
    rw [hrefused] at h
    dsimp only at h
    split at h
    case isTrue =>
      cases h
      exact .inl rfl
    case isFalse =>
      cases hrun : st.run db with
      | error f' =>
        rw [hrun] at h
        exact .inr h
      | ok made =>
        rw [hrun] at h
        dsimp only at h
        split at h
        case isTrue => simp at h
        case isFalse =>
          cases h
          exact .inl rfl

/-- The connection has a transaction in progress. -/
structure InProgress (l : Link) : Prop where
  usable : l.Usable
  open_ : l.transaction.isSome = true

/-- The connection's transaction has made the given database of the stored one. -/
structure HasMade (l : Link) (db : Database) : Prop where
  usable : l.Usable
  transaction : l.transaction = some { view := some db, writes := true }

theorem HasMade.inProgress {l : Link} (h : l.HasMade db) : l.InProgress :=
  ⟨h.usable, by rw [h.transaction]; rfl⟩

/-- The connection sees what its transaction has made. -/
theorem HasMade.view_eq {l : Link} {made : Database} (h : l.HasMade made) : l.view db = made := by
  rw [h.usable.view_eq, h.transaction]
  rfl

theorem inProgress_begun : begun.InProgress := ⟨⟨rfl, rfl⟩, rfl⟩

/-- The connection's transaction has not written anything; at most it has looked at the database. -/
structure HasLooked (l : Link) : Prop where
  usable : l.Usable
  transaction : ∃ view, l.transaction = some { view }

theorem hasLooked_begun : begun.HasLooked := ⟨⟨rfl, rfl⟩, _, rfl⟩

theorem HasLooked.inProgress {l : Link} (h : l.HasLooked) : l.InProgress := by
  obtain ⟨view, htransaction⟩ := h.transaction
  exact ⟨h.usable, by rw [htransaction]; rfl⟩

/-- A statement that writes comes on such a connection to what it comes to on what was looked at. -/
theorem HasLooked.execute {l : Link} (h : l.HasLooked) (hwrites : st.writes = true)
    (hdefers : st.defers = false) :
    ∃ l', l.execute db others st = ((st.tried others (l.view db)).map (·.1), l') ∧ l'.InProgress ∧
      ∀ outcome, st.tried others (l.view db) = .ok outcome → l'.HasMade outcome.2 := by
  have hview : l.view db = (l.transaction.bind (·.view)).getD db := h.usable.view_eq
  have htouch := h.usable.touch_eq
  obtain ⟨health, transaction, stage⟩ := l
  obtain rfl : health = .sound := h.usable.sound
  obtain rfl : stage = .running := h.usable.running
  obtain ⟨view, rfl⟩ : ∃ view, transaction = some { view } := h.transaction
  have hlooked : ∀ (writes : Bool) (seen : Database), InProgress
      ⟨.sound, some { view := some seen, writes }, .running⟩ := fun _ _ => ⟨⟨rfl, rfl⟩, rfl⟩
  have hseen : ({ view } : Transaction).view.getD db = Link.view ⟨.sound, some { view }, .running⟩ db := hview.symm
  unfold Link.execute
  rw [htouch]
  unfold Statement.tried
  cases hrefused : st.refused with
  | some e => exact ⟨_, rfl, h.inProgress, by simp⟩
  | none =>
    simp only [hwrites, hdefers, Bool.true_and, Bool.not_true, Bool.or_false, Option.getD_some, hseen]
    cases hlocked : others.any isWriting with
    -- locked out: the transaction stays, and has looked at the database
    | true => exact ⟨_, rfl, hlooked false _, by simp⟩
    | false =>
      simp only [Bool.false_eq_true, if_false]
      cases hrun : st.run (Link.view ⟨.sound, some { view }, .running⟩ db) with
      | error f => exact ⟨_, rfl, hlooked true _, by simp⟩
      | ok outcome =>
        obtain ⟨a, made⟩ := outcome
        simp only [Bool.false_or]
        -- a constraint is checked when the statement ends, and what it made is thrown away
        cases hconsistent : made.isConsistent with
        | false =>
          simp only [Bool.false_eq_true, if_false]
          exact ⟨_, rfl, hlooked true _, by simp⟩
        | true =>
          simp only [if_true]
          refine ⟨_, rfl, hlooked true made, ?_⟩
          intro outcome houtcome
          obtain rfl : (a, made) = outcome := Except.ok.inj houtcome
          exact ⟨⟨rfl, rfl⟩, rfl⟩

/-- A statement that only reads leaves it at that. -/
theorem HasLooked.execute_reading {l : Link} (h : l.HasLooked) (hwrites : st.writes = false)
    (hdefers : st.defers = false) : (l.execute db others st).2.HasLooked := by
  have htouch := h.usable.touch_eq
  obtain ⟨health, transaction, stage⟩ := l
  obtain rfl : health = .sound := h.usable.sound
  obtain rfl : stage = .running := h.usable.running
  obtain ⟨view, rfl⟩ : ∃ view, transaction = some { view } := h.transaction
  have hlooked : ∀ seen : Database, HasLooked ⟨.sound, some { view := some seen }, .running⟩ := fun seen =>
    ⟨⟨rfl, rfl⟩, _, rfl⟩
  unfold Link.execute
  rw [htouch]
  cases st.refused with
  | some e => exact h
  | none =>
    simp only [hwrites, hdefers, Option.getD_some, Bool.or_false, Bool.false_and, Bool.not_false, Bool.or_true,
      Bool.true_or, Bool.false_eq_true, if_false, if_true]
    cases st.run (view.getD db) with
    | error f => exact hlooked _
    | ok outcome => exact hlooked _

theorem InProgress.inTransaction_eq {l : Link} (h : l.InProgress) : l.inTransaction = true := by
  unfold inTransaction
  rw [h.open_, h.usable.running]
  rfl

theorem isAlive_outermost {l : Link} (h : l.inTransaction = true) : l.isAlive .outermost = true := by
  unfold isAlive
  rw [h]
  rfl

end Link

namespace Scope

variable {α : Type} {operation : String} {sys : System}

theorem ending_apply {finish : Handle → Sys Unit} {h : Handle} {outcome : Except Fault Unit}
    {sys' : System} (hscope : sys.scope = some { operation, handle := some h })
    (hfinish : finish h { sys with scope := some { operation } } = (outcome, sys')) :
    ∃ journal, ending finish sys = (report operation outcome, { sys' with journal }) := by
  unfold ending
  rw [Sys.bind_of_ok (requireHandle_of_some hscope rfl), Sys.bind_of_ok (current_of_some hscope),
    Sys.bind_of_ok (setHandle_apply hscope none)]
  exact reporting_apply hfinish

end Scope

end RowGuard
