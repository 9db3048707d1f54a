import RowGuard.Condition.Basic
import RowGuard.Config
import RowGuard.Fragment.Basic
import RowGuard.Registry
import RowGuard.Text.Sorted

/-!
# Batches

A batch names rows of one table by their identities and either gives them new values or deletes them.
It is checked before anything else happens: how many targets it has, that none is named twice, and for
an update that all targets set the same columns, none of them twice, unknown, or the identity. A batch
that passed is carried out for all of its targets or for none.
-/

namespace RowGuard

/-- A row to be changed, with the values it alone is given. -/
structure Target where
  identity : Data
  values : List (String × Data) := []
deriving DecidableEq

/-- What a batch does to the rows it reaches: it sets columns to values given with each target and to
values that are the same for all, or it deletes the rows. -/
inductive Change where
  | update (keys : List String) (constant : List (String × Data))
  | delete
deriving DecidableEq

/-- A planned batch. `excluded` is the subject's own identity, if its row must not be touched. -/
structure Batch where
  subject : Subject
  action : Data
  type : Data
  mapping : Mapping
  targets : List Target
  change : Change
  excluded : Option Data
  fragment : Fragment
  config : Config

namespace Target

/-- The columns a target sets, in order. -/
def columns (t : Target) : List String := Text.sortedSet (t.values.map (·.1))

/-- The value a target gives a column. -/
def value (t : Target) (column : String) : Data := (t.values.lookup column).getD .null

end Target

namespace Batch

/-! ## Validation -/

/-- The first identity that the same batch has named before. -/
def repeatedIdentity? (seen : List Data) : List Target → Option Data
  | [] => none
  | t :: rest =>
    if seen.any t.identity.same then some t.identity else repeatedIdentity? (t.identity :: seen) rest

/-- Whether a batch has more targets than a limit, if there is one, allows. -/
def exceeds (count : Nat) (limit : Option Number) : Option Number :=
  limit.filter fun n => n.isBelow count

/-- Checks the targets of a batch, whose identities are looked up one after the other. -/
def checkTargets (config : Config) (targets : List Target) : Except Fault Unit :=
  if targets.isEmpty then .error (.batch .noTargets)
  else
    match exceeds targets.length config.maxBatchSize with
    | some limit => .error (.batch (.tooMany targets.length limit))
    | none =>
      match repeatedIdentity? [] (targets.takeWhile fun t => t.identity.isKey) with
      | some i => .error (.batch (.repeatedTarget i))
      | none =>
        if targets.all fun t => t.identity.isKey then .ok () else .error (.shape .wrongType)

/-- What is wrong with setting a column of the registered table, if anything is. The column is looked up by its
label, and the identity is told by its name. -/
def columnFault? (m : Mapping) (name : String) : Option BatchFault :=
  if (m.table.labelled? name).isNone then some (.unknownColumn m.table.name name)
  else if name = m.identity.name then some .changesIdentity
  else none

/-- The columns set per target, which are the same for every target; none for an empty batch. -/
def keysOf (targets : List Target) : List String := ((targets.head?).map (·.columns)).getD []

/-- Checks the columns an update sets. -/
def checkColumns (m : Mapping) (targets : List Target) (constant : List (String × Data)) :
    Except BatchFault Unit :=
  let keys := keysOf targets
  let shared := constant.map (·.1)
  if targets.any fun t => decide (t.columns ≠ keys) then .error .unequalColumns
  else
    match (keys ++ shared).findSome? (columnFault? m) with
    | some fault => .error fault
    | none =>
      let twice := keys.filter fun k => shared.contains k
      if !twice.isEmpty then .error (.setTwice (Text.sortedSet twice))
      else if keys.isEmpty && shared.isEmpty then .error .setsNothing
      else .ok ()

/-! ## Literals -/

/-- A value typed by its own kind. -/
def ownLiteral (value : Data) : Literal := ⟨value, Sql.kindType value⟩

/-- The identities as the list they are searched in, which has one type: that of the first one. A list
with a null has no type in common. -/
def identityLiterals (b : Batch) : List Literal :=
  let identities := b.targets.map (·.identity)
  if identities.contains .null then identities.map ownLiteral
  else
    let type := (identities.head?).bind Sql.kindType
    identities.map fun i => ⟨i, type⟩

/-- The values that are the same for all rows. -/
def constants (b : Batch) : List (String × Data) :=
  match b.change with
  | .update _ constant => constant
  | .delete => []

/-- The columns that every target sets for itself. -/
def keys (b : Batch) : List String :=
  match b.change with
  | .update keys _ => keys
  | .delete => []

/-- A value as one of a column of the table. -/
def columnLiteral (b : Batch) (column : String) (value : Data) : Literal :=
  ⟨value, (b.mapping.table.labelled? column).map (·.type)⟩

/-- An identity as one of the identity column. -/
def identityLiteral (b : Batch) (value : Data) : Literal :=
  ⟨value, (b.mapping.table.column? b.mapping.identity.name).map (·.type)⟩

/-- The columns that an update sets, in the order of the table. -/
def changedColumns (b : Batch) : List String :=
  let set := b.keys ++ b.constants.map (·.1)
  (b.mapping.table.columns.map (·.label)).filter set.contains

/-! ## Validation says what a batch is -/

theorem repeatedIdentity?_eq_none_iff (seen : List Data) (targets : List Target) :
    repeatedIdentity? seen targets = none ↔
      (∀ t ∈ targets, ∀ s ∈ seen, t.identity.same s = false) ∧
        targets.Pairwise fun a b => b.identity.same a.identity = false := by
  induction targets generalizing seen with
  | nil => simp [repeatedIdentity?]
  | cons t rest ih =>
    unfold repeatedIdentity?
    by_cases h : seen.any t.identity.same = true
    · rw [if_pos h]
      simp only [List.any_eq_true] at h
      obtain ⟨s, hs, hsame⟩ := h
      simp only [reduceCtorEq, false_iff, not_and]
      intro hall
      have := hall t (by simp) s hs
      simp [hsame] at this
    · rw [if_neg h, ih]
      simp only [List.mem_cons, List.pairwise_cons]
      simp only [List.any_eq_true, not_exists, not_and, Bool.not_eq_true] at h
      constructor
      · rintro ⟨hall, hpair⟩
        refine ⟨?_, ?_, hpair⟩
        · rintro u (rfl | hu) s hs
          · exact h s hs
          · exact hall u hu s (Or.inr hs)
        · intro u hu
          exact hall u hu t.identity (Or.inl rfl)
      · rintro ⟨hall, hhead, hpair⟩
        refine ⟨?_, hpair⟩
        rintro u hu s (rfl | hs)
        · exact hhead u hu
        · exact hall u (Or.inr hu) s hs

end Batch

end RowGuard
