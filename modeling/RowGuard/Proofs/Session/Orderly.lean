import RowGuard.Proofs.Session.Savepoint

/-!
# Blocks inside a transaction

An operation is secluded if the transaction around it is in progress afterwards, with the savepoints that were set,
whatever the operation has stored elsewhere (`Sys.Secluded`). What a block does in its scope is orderly if it ends
nothing that was begun around the block (`Sys.Orderly`): it may begin, commit and roll back through its scope, run
statements and do what is secluded. The block as a whole is secluded then (`Sys.Orderly.within_connection`), and so
is every block on a connection of its own (`Sys.Secluded.within_engine`).
-/

namespace RowGuard

/-- The system inside some savepoints of a transaction in progress, whatever has been stored meanwhile. -/
def System.Amidst (lent : List Link) (scope : Option Scope) (marks : List (Option Database)) (sys : System) : Prop :=
  System.Inside sys.disk lent scope marks sys

/-- The system inside some savepoints of a transaction in progress, in the scope of an operation that has begun
inside of them what it holds. -/
structure System.Beneath (lent : List Link) (operation : String) (marks : List (Option Database)) (sys : System) :
    Prop where
  lent : sys.lent = lent
  scope : ∃ handle, sys.scope = some { operation, handle } ∧
    ∀ h, handle = some h → ∃ depth, h = .savepoint depth ∧ marks.length < depth
  link : ∃ l, sys.link = some l ∧ l.InProgress ∧ marks <:+ l.marks

theorem System.Beneath.of_kept {lent : List Link} {operation : String} {marks : List (Option Database)}
    {a b : System} (hab : a.Kept b) (h : a.Beneath lent operation marks) : b.Beneath lent operation marks :=
  ⟨hab.lent.trans h.lent, by rw [hab.scope]; exact h.scope, by rw [hab.link]; exact h.link⟩

namespace Link

variable {l : Link} {marks : List (Option Database)} {depth : Nat}

/-- A savepoint that is set inside of others has them below it. -/
theorem exists_below (hmarks : marks <:+ l.marks) (hinner : marks.length < depth) (hset : depth ≤ l.marks.length) :
    ∃ inner mark below, inner ++ mark :: below = l.marks ∧ depth = below.length + 1 ∧ marks <:+ below := by
  obtain ⟨above, habove⟩ := hmarks
  have hlength : l.marks.length = above.length + marks.length := by rw [← habove, List.length_append]
  have hposition : l.marks.length - depth < above.length := by omega
  refine ⟨above.take (l.marks.length - depth), above[l.marks.length - depth],
    above.drop (l.marks.length - depth + 1) ++ marks, ?_, ?_, List.suffix_append _ _⟩
  · rw [← List.cons_append, List.getElem_cons_drop, ← List.append_assoc, List.take_append_drop, habove]
  · rw [List.length_append, List.length_drop]
    omega

theorem isAlive_savepoint_iff (hl : l.InProgress) : l.isAlive (.savepoint depth) = true ↔ depth ≤ l.marks.length := by
  refine ⟨?_, hl.isAlive_savepoint⟩
  intro halive
  obtain ⟨t, ht⟩ := Option.isSome_iff_exists.mp hl.open_
  simpa [isAlive, hl.inTransaction_eq, marks, ht] using halive

/-- Whatever a commit inside of savepoints comes to, they are still set. -/
theorem InProgress.suffix_commit (hl : l.InProgress) (hmarks : marks <:+ l.marks) (hinner : marks.length < depth)
    (disk : Database) (others : List Link) :
    ∃ outcome l', l.commit disk others (.savepoint depth) = (outcome, l', disk) ∧ l'.InProgress ∧
      marks <:+ l'.marks := by
  cases halive : l.isAlive (.savepoint depth) with
  | false =>
    unfold commit
    rw [halive]
    exact ⟨_, l, rfl, hl, hmarks⟩
  | true =>
    obtain ⟨inner, mark, below, hsplit, rfl, hbelow⟩ := exists_below hmarks hinner ((isAlive_savepoint_iff hl).mp halive)
    obtain ⟨l', hcommit, hl', hmarks', _⟩ := hl.commit_savepoint disk others hsplit
    exact ⟨_, l', hcommit, hl', by rwa [hmarks']⟩

/-- Whatever a rollback inside of savepoints comes to, they are still set. -/
theorem InProgress.suffix_rollback (hl : l.InProgress) (hmarks : marks <:+ l.marks) (hinner : marks.length < depth) :
    (l.rollback (.savepoint depth)).2.InProgress ∧ marks <:+ (l.rollback (.savepoint depth)).2.marks := by
  cases halive : l.isAlive (.savepoint depth) with
  | false =>
    unfold rollback
    rw [halive]
    exact ⟨hl, hmarks⟩
  | true =>
    obtain ⟨inner, mark, below, hsplit, rfl, hbelow⟩ := exists_below hmarks hinner ((isAlive_savepoint_iff hl).mp halive)
    obtain ⟨l', hrollback, hl', hmarks', _⟩ := hl.rollback_savepoint hsplit
    rw [hrollback]
    exact ⟨hl', by rwa [hmarks']⟩

end Link

namespace Sys

variable {α β : Type} {x : Sys α} {f : α → Sys β}

/-- Whatever the operation comes to, the transaction around it is in progress, the savepoints are set, and the scope
and the other connections are as they were. -/
def Secluded (x : Sys α) : Prop := ∀ lent scope marks, Keeps (System.Amidst lent scope marks) x

/-- What the operation does in a scope ends nothing that was begun around the scope. -/
def Orderly (x : Sys α) : Prop := ∀ lent operation marks, Keeps (System.Beneath lent operation marks) x

theorem Contained.secluded (hx : Contained x) : Secluded x := by
  intro lent scope marks sys hsys
  have hafter := hx sys.disk lent scope marks sys hsys
  exact ⟨rfl, hafter.lent, hafter.scope, hafter.link⟩

theorem Secluded.bind (hx : Secluded x) (hf : ∀ a, Secluded (f a)) : Secluded (x >>= f) :=
  fun lent scope marks => (hx lent scope marks).bind fun a => hf a lent scope marks

namespace Orderly

theorem bind (hx : Orderly x) (hf : ∀ a, Orderly (f a)) : Orderly (x >>= f) :=
  fun lent operation marks => (hx lent operation marks).bind fun a => hf a lent operation marks

theorem pure (a : α) : Orderly (Pure.pure a : Sys α) := fun _ _ _ => Keeps.pure a

end Orderly

/-- What is secluded is orderly in any scope. -/
theorem Secluded.orderly (hx : Secluded x) : Orderly x := by
  rintro lent operation marks sys ⟨hlent, hscope, hlink⟩
  have hafter := hx lent sys.scope marks sys ⟨rfl, hlent, rfl, hlink⟩
  exact ⟨hafter.lent, by rw [hafter.scope]; exact hscope, hafter.link⟩

end Sys

namespace Scope

open Sys

variable {α : Type} {operation : String}

theorem orderly_begin : Orderly begin := by
  rintro lent operation marks sys ⟨hlent, ⟨handle, hscope, hinner⟩, l, hlink, hl, hmarks⟩
  cases halive : (handle.map l.isAlive).getD false with
  | true =>
    rw [begin_of_alive hscope hlink halive]
    exact ⟨hlent, ⟨handle, hscope, hinner⟩, l, hlink, hl, hmarks⟩
  | false =>
    rw [begin_of_ok hscope hlink halive hl.begin_eq]
    refine ⟨hlent, ⟨_, rfl, ?_⟩, _, rfl, hl.marked, ?_⟩
    · intro h hh
      obtain rfl := Option.some.inj hh
      exact ⟨_, rfl, Nat.lt_succ_of_le hmarks.length_le⟩
    · rw [hl.marks_marked]
      exact hmarks.trans (List.suffix_cons _ _)

/-- A scope ends what it has begun, and nothing else. -/
theorem orderly_ending {finish : Handle → Sys Unit}
    (hfinish : ∀ lent operation marks depth, marks.length < depth →
      Keeps (System.Beneath lent operation marks) (finish (.savepoint depth))) : Orderly (ending finish) := by
  rintro lent operation marks sys ⟨hlent, ⟨handle, hscope, hinner⟩, hlink⟩
  cases handle with
  | none =>
    rw [ending_of_none hscope rfl]
    exact ⟨hlent, ⟨none, hscope, hinner⟩, hlink⟩
  | some h =>
    obtain ⟨depth, rfl, hdepth⟩ := hinner h rfl
    have hended := hfinish lent operation marks depth hdepth { sys with scope := some { operation } }
      ⟨hlent, ⟨none, rfl, by simp⟩, hlink⟩
    obtain ⟨journal, hending⟩ := ending_apply hscope (rfl : finish (.savepoint depth) _ = _)
    rw [hending]
    exact hended.of_kept (.logged _ journal)

theorem orderly_commit : Orderly commit := by
  refine orderly_ending ?_
  rintro lent operation marks depth hdepth sys ⟨hlent, hscope, l, hlink, hl, hmarks⟩
  obtain ⟨outcome, l', hcommit, hl', hmarks'⟩ := hl.suffix_commit hmarks hdepth sys.disk sys.lent
  rw [commitHere_apply hlink, hcommit]
  exact ⟨hlent, hscope, l', rfl, hl', hmarks'⟩

theorem keeps_rollbackHere_beneath {lent : List Link} {marks : List (Option Database)} {depth : Nat}
    (hdepth : marks.length < depth) :
    Keeps (System.Beneath lent operation marks) (rollbackHere (.savepoint depth)) := by
  rintro sys ⟨hlent, hscope, l, hlink, hl, hmarks⟩
  rw [rollbackHere_apply hlink]
  exact ⟨hlent, hscope, _, rfl, hl.suffix_rollback hmarks hdepth⟩

theorem orderly_rollback : Orderly rollback := orderly_ending fun _ _ _ _ => keeps_rollbackHere_beneath

theorem orderly_rollbackOpen : Orderly rollbackOpen := by
  rintro lent operation marks sys ⟨hlent, ⟨handle, hscope, hinner⟩, l, hlink, hl, hmarks⟩
  cases halive : (handle.map l.isAlive).getD false with
  | false =>
    rw [rollbackOpen_of_ended hscope hlink halive]
    exact ⟨hlent, ⟨handle, hscope, hinner⟩, l, hlink, hl, hmarks⟩
  | true =>
    cases handle with
    | none => simp at halive
    | some h =>
      obtain ⟨depth, rfl, hdepth⟩ := hinner h rfl
      rw [rollbackOpen_of_alive hscope hlink halive]
      exact ⟨hlent, ⟨none, rfl, by simp⟩, _, rfl, hl.suffix_rollback hmarks hdepth⟩

/-- A statement of a scope is a statement of its connection, of which a fault is logged. -/
theorem contained_execute (st : Link.Statement α) : Contained (execute st) := by
  intro disk lent scope marks sys hsys
  obtain ⟨l, hlink, _⟩ := hsys.link
  have hexecuted := Contained.execute st disk lent scope marks sys hsys
  cases hscope : sys.scope with
  | none =>
    have hinactive : current sys = (.error (.scope .inactive), sys) := by
      unfold current
      simp [hscope]
    have hstopped : execute st sys = _ := bind_of_error hinactive
    rw [hstopped]
    exact hsys
  | some own =>
    obtain ⟨journal, hreported⟩ := execute_apply hlink hscope (rfl : l.execute sys.disk sys.lent st = _)
    rw [execute_of_some hlink] at hexecuted
    rw [hreported]
    exact hexecuted.of_kept (.logged _ journal)

end Scope

namespace Sys

open Scope

variable {α : Type} {body : Sys α}

/-- A block on the connection in use is secluded if it is orderly in its scope. -/
theorem Orderly.within_connection (hbody : Orderly body) (operation : String) :
    Secluded (within .connection operation body) := by
  rintro lent scope marks sys ⟨_, hlent, rfl, hlink⟩
  have hopened : System.Beneath lent operation marks { sys with scope := some { operation } } :=
    ⟨hlent, ⟨none, rfl, by simp⟩, hlink⟩
  have hdone := hbody lent operation marks _ hopened
  have hleft := keeps_leave System.Beneath.of_kept (orderly_rollbackOpen lent operation marks) operation
    (body { sys with scope := some { operation } }).1 _ hdone
  exact ⟨rfl, hleft.lent, rfl, hleft.link⟩

/-- A block on a connection of its own is secluded, whatever it does. -/
theorem Secluded.within_engine (body : Sys α) (reachable : Bool) (operation : String) :
    Secluded (within (.engine reachable) operation body) := by
  rintro lent scope marks sys ⟨_, rfl, rfl, hlink⟩
  cases reachable with
  | false => exact ⟨rfl, rfl, rfl, hlink⟩
  | true => exact ⟨rfl, rfl, rfl, hlink⟩

end Sys

end RowGuard
