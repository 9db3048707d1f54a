import Mathlib
import RowGuard.Database.Basic

/-!
# Deleted rows

A deletion takes with it the rows that cascading references lead from, those that lead to these, and so on,
and no others (`mem_withFollowers_iff`). What stays of a table are its other rows, as they were. A row that has
gone with one deleted before it is not counted, so the count is that of all rows exactly where there is none
(`countInTurn_eq_length_iff`).
-/

namespace RowGuard.Database

variable {db : Database} {start deleted : List (Schema × Row)} {e : Schema × Row}

/-- A row goes when a deletion starts from it, or when it follows a row that goes. -/
inductive Goes (db : Database) (start : List (Schema × Row)) : Schema × Row → Prop
  | start {e : Schema × Row} : e ∈ start → Goes db start e
  | follows {d e : Schema × Row} :
      Goes db start d → e ∈ db.entries → follows d e = true → Goes db start e

theorem mem_followers_iff :
    e ∈ db.followers deleted ↔ e ∈ db.entries ∧ e ∉ deleted ∧ ∃ d ∈ deleted, follows d e = true := by
  simp [followers]

/-- Nothing is deleted that does not go. -/
theorem goes_of_mem_withFollowers (hdeleted : ∀ d ∈ deleted, db.Goes start d)
    (he : e ∈ db.withFollowers deleted) : db.Goes start e := by
  induction deleted using withFollowers.induct db with
  | case1 deleted hnone =>
    rw [withFollowers, if_pos hnone] at he
    exact hdeleted e he
  | case2 deleted hsome ih =>
    rw [withFollowers, if_neg hsome] at he
    refine ih (fun d hd => ?_) he
    rcases List.mem_append.mp hd with hd | hd
    · exact hdeleted d hd
    · obtain ⟨hentry, _, d', hd', hfollows⟩ := mem_followers_iff.mp hd
      exact .follows (hdeleted d' hd') hentry hfollows

theorem mem_withFollowers_of_mem (he : e ∈ deleted) : e ∈ db.withFollowers deleted := by
  induction deleted using withFollowers.induct db with
  | case1 deleted hnone => rwa [withFollowers, if_pos hnone]
  | case2 deleted hsome ih =>
    rw [withFollowers, if_neg hsome]
    exact ih (List.mem_append_left _ he)

/-- What follows a deleted row is deleted. -/
theorem mem_withFollowers_of_follows {d : Schema × Row} (hd : d ∈ db.withFollowers deleted)
    (hentry : e ∈ db.entries) (hfollows : follows d e = true) : e ∈ db.withFollowers deleted := by
  induction deleted using withFollowers.induct db with
  | case1 deleted hnone =>
    rw [withFollowers, if_pos hnone] at hd ⊢
    -- the search has ended, so there is no follower that it lacks
    by_contra hmissing
    have hfollower : e ∈ db.followers deleted :=
      mem_followers_iff.mpr ⟨hentry, hmissing, d, hd, hfollows⟩
    rw [List.isEmpty_iff.mp hnone] at hfollower
    exact List.not_mem_nil hfollower
  | case2 deleted hsome ih =>
    rw [withFollowers, if_neg hsome] at hd ⊢
    exact ih hd

/-- A deletion takes exactly the rows that go. -/
theorem mem_withFollowers_iff : e ∈ db.withFollowers start ↔ db.Goes start e := by
  constructor
  · exact goes_of_mem_withFollowers fun d hd => .start hd
  · intro h
    induction h with
    | start he => exact mem_withFollowers_of_mem he
    | follows _ hentry hfollows ih => exact mem_withFollowers_of_follows ih hentry hfollows

/-- Where nothing follows what follows a row, a deletion takes the rows it starts from and those that follow these. -/
theorem goes_iff_of_short
    (hshort : ∀ d, ∀ e ∈ db.entries, follows d e = true → ∀ e' ∈ db.entries, follows e e' = false) :
    db.Goes start e ↔ e ∈ start ∨ e ∈ db.entries ∧ ∃ d ∈ start, follows d e = true := by
  constructor
  · intro h
    cases h with
    | start he => exact .inl he
    | follows hd hentry hfollows =>
      cases hd with
      | start hd => exact .inr ⟨hentry, _, hd, hfollows⟩
      | follows _ hentry' hfollows' =>
        exact absurd (hfollows.symm.trans (hshort _ _ hentry' hfollows' _ hentry)) (by simp)
  · rintro (he | ⟨hentry, d, hd, hfollows⟩)
    · exact .start he
    · exact .follows (.start hd) hentry hfollows

/-! ## The number of deleted rows -/

variable {gone rows : List (Schema × Row)}

theorem countInTurn_le_length : db.countInTurn gone rows ≤ rows.length := by
  induction rows generalizing gone with
  | nil => exact Nat.le_refl 0
  | cons d rest ih =>
    unfold countInTurn
    split
    case isTrue => exact Nat.le_succ_of_le ih
    case isFalse => exact Nat.succ_le_succ ih

/-- All rows are counted if none is gone at first or goes with one before it. -/
theorem countInTurn_eq_length_iff_of_gone : db.countInTurn gone rows = rows.length ↔
    (∀ d ∈ rows, d ∉ gone) ∧ rows.Pairwise fun d e => e ∉ db.goingWith d := by
  induction rows generalizing gone with
  | nil => simp [countInTurn]
  | cons d rest ih =>
    have hgone : gone.contains d = true ↔ d ∈ gone := List.contains_iff_mem
    unfold countInTurn
    split
    case isTrue hd =>
      -- this row is not counted, and of the others there are too few
      have hle : db.countInTurn gone rest ≤ rest.length := countInTurn_le_length
      constructor
      · intro hcount
        rw [List.length_cons] at hcount
        omega
      · rintro ⟨hnone, _⟩
        exact absurd (hgone.mp hd) (hnone d List.mem_cons_self)
    case isFalse hd =>
      rw [List.length_cons, Nat.add_right_cancel_iff, ih, List.forall_mem_cons, List.pairwise_cons]
      simp only [List.mem_append, not_or, forall_and]
      exact ⟨fun ⟨⟨hnone, hfirst⟩, hrest⟩ => ⟨⟨mt hgone.mpr hd, hnone⟩, hfirst, hrest⟩,
        fun ⟨⟨_, hnone⟩, hfirst, hrest⟩ => ⟨⟨hnone, hfirst⟩, hrest⟩⟩

/-- All rows are counted if none goes with one before it. -/
theorem countInTurn_eq_length_iff : db.countInTurn [] rows = rows.length ↔
    rows.Pairwise fun d e => e ∉ db.goingWith d := by
  simp [countInTurn_eq_length_iff_of_gone]

end RowGuard.Database
