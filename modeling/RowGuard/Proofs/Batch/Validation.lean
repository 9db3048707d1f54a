import RowGuard.Proofs.Batch.AllOrNothing
import RowGuard.Proofs.Policy.LeastClosure

/-!
# What is no batch

A batch is refused for what is wrong with its targets (`Rejects`) and an update also for the columns it sets
(`RejectsColumns`). Both are said of the request alone, and the checks find exactly these: `rejects_iff`,
`not_rejectsColumns_iff`. They come first: what is refused is refused whatever the evaluator is and changes nothing,
and otherwise planning is to have one fragment compiled for the registered column and to place it in a batch of all
targets (`ChecksFirst`, `planning_checks_first`).

A request sets columns by their labels, and is kept from setting the identity by its name. Where the identity has
another label than its name, an update can set it (`Crew.identity_is_renamed`).
-/

namespace RowGuard.Batch

variable {config : Config} {m : Mapping} {targets : List Target} {constant : List (String × Data)}

/-! ## Targets -/

/-- The targets are none, too many, or two of them have the same identity. -/
inductive Rejects (config : Config) (targets : List Target) : Prop where
  | none (h : targets = [])
  | tooMany (limit : Number) (hlimit : config.maxBatchSize = some limit) (h : limit.isBelow targets.length = true)
  | repeated (i j : Nat) (t u : Target) (hij : i < j) (ht : targets[i]? = some t) (hu : targets[j]? = some u)
      (h : u.identity.same t.identity = true)

/-- Some two items at different places of a list are related exactly if not all pairs are unrelated. -/
theorem exists_related_iff {α : Type} {R : α → α → Prop} {l : List α} :
    (∃ (i j : Nat) (t u : α), i < j ∧ l[i]? = some t ∧ l[j]? = some u ∧ R t u) ↔ ¬ l.Pairwise fun t u => ¬ R t u := by
  rw [List.pairwise_iff_getElem]
  constructor
  · rintro ⟨i, j, t, u, hij, ht, hu, h⟩ hall
    obtain ⟨hi, rfl⟩ := List.getElem?_eq_some_iff.mp ht
    obtain ⟨hj, rfl⟩ := List.getElem?_eq_some_iff.mp hu
    exact hall i j hi hj hij h
  · intro h
    push Not at h
    obtain ⟨i, j, hi, hj, hij, h⟩ := h
    exact ⟨i, j, l[i], l[j], hij, List.getElem?_eq_getElem hi, List.getElem?_eq_getElem hj, h⟩

/-- The checks refuse exactly the targets that are no batch. -/
theorem rejects_iff (hkeys : ∀ t ∈ targets, t.identity.isKey = true) :
    Rejects config targets ↔ checkTargets config targets ≠ .ok () := by
  have hrepeated : (∃ (i j : Nat) (t u : Target), i < j ∧ targets[i]? = some t ∧ targets[j]? = some u ∧
      u.identity.same t.identity = true) ↔ ¬ targets.Pairwise fun t u => u.identity.same t.identity = false := by
    simp only [exists_related_iff, Bool.not_eq_true]
  have hlimit : (∃ limit, config.maxBatchSize = some limit ∧ limit.isBelow targets.length = true) ↔
      exceeds targets.length config.maxBatchSize ≠ none := by
    rw [exceeds]
    cases config.maxBatchSize <;> simp [Option.filter]
  rw [ne_eq, checkTargets_eq_ok_iff, not_and_or, not_and_or, not_and_or, ← hrepeated, not_not, ← ne_eq, ← hlimit]
  constructor
  · rintro (h | ⟨limit, hlimit, h⟩ | ⟨i, j, t, u, hij, ht, hu, h⟩)
    · exact .inl h
    · exact .inr (.inl ⟨limit, hlimit, h⟩)
    · exact .inr (.inr (.inr ⟨i, j, t, u, hij, ht, hu, h⟩))
  · rintro (h | ⟨limit, hlimit, h⟩ | h | ⟨i, j, t, u, hij, ht, hu, h⟩)
    · exact .none h
    · exact .tooMany limit hlimit h
    · exact absurd hkeys h
    · exact .repeated i j t u hij ht hu h

/-- What is refused for its targets is refused as a batch. -/
theorem exists_fault_of_rejects (hkeys : ∀ t ∈ targets, t.identity.isKey = true) (h : Rejects config targets) :
    ∃ fault, checkTargets config targets = .error (.batch fault) := by
  have hrefused := (rejects_iff hkeys).mp h
  unfold checkTargets at hrefused ⊢
  rw [List.all_eq_true.mpr hkeys, if_pos rfl] at hrefused ⊢
  split
  case isTrue => exact ⟨_, rfl⟩
  case isFalse hsome =>
    rw [if_neg hsome] at hrefused
    cases hlimit : exceeds targets.length config.maxBatchSize with
    | some limit => exact ⟨_, rfl⟩
    | none =>
      rw [hlimit] at hrefused
      cases hfound : repeatedIdentity? [] (targets.takeWhile fun t => t.identity.isKey) with
      | some i => exact ⟨_, rfl⟩
      | none => simp [hfound] at hrefused

/-! ## Columns -/

/-- The names that targets and the values for all rows set. -/
inductive Sets (targets : List Target) (constant : List (String × Data)) (name : String) : Prop where
  | perTarget (t : Target) (ht : t ∈ targets) (h : name ∈ t.values.map (·.1))
  | forAll (h : name ∈ constant.map (·.1))

/-- Targets set different columns, a column that is set is no column's label or is the identity's name or set both
ways, or no column is set. -/
inductive RejectsColumns (m : Mapping) (targets : List Target) (constant : List (String × Data)) : Prop where
  | unequal (t u : Target) (ht : t ∈ targets) (hu : u ∈ targets) (name : String) (h : name ∈ t.values.map (·.1))
      (h' : name ∉ u.values.map (·.1))
  | unknown (name : String) (hset : Sets targets constant name) (h : ∀ c ∈ m.table.columns, c.label ≠ name)
  | identity (hset : Sets targets constant m.identity.name)
  | twice (name : String) (t : Target) (ht : t ∈ targets) (h : name ∈ t.values.map (·.1))
      (h' : name ∈ constant.map (·.1))
  | nothing (h : ∀ name, ¬ Sets targets constant name)

/-- Names in order are equal exactly if they are the same names. -/
theorem sortedSet_eq_iff {a b : List String} : Text.sortedSet a = Text.sortedSet b ↔ ∀ k, k ∈ a ↔ k ∈ b := by
  constructor
  · intro h k
    rw [← Text.mem_sortedSet, h, Text.mem_sortedSet]
  · intro h
    have hperm : a.eraseDups.Perm b.eraseDups :=
      (List.perm_ext_iff_of_nodup (nodup_eraseDups a) (nodup_eraseDups b)).mpr fun k => by
        rw [List.mem_eraseDups, List.mem_eraseDups, h]
    have hsorted : (Text.sortedSet a).Perm (Text.sortedSet b) :=
      (List.mergeSort_perm _ _).trans (hperm.trans (List.mergeSort_perm _ _).symm)
    exact hsorted.eq_of_pairwise' (Name.pairwise_mergeSort _) (Name.pairwise_mergeSort _)

/-- A column can be set under a label of the table's that is not the identity's name. -/
theorem columnFault?_eq_none_iff_exists {name : String} :
    columnFault? m name = none ↔ (∃ c ∈ m.table.columns, c.label = name) ∧ name ≠ m.identity.name := by
  have hknown : (∃ c, m.table.labelled? name = some c) ↔ ∃ c ∈ m.table.columns, c.label = name := by
    rw [← Option.isSome_iff_exists, Schema.labelled?, List.find?_isSome]
    simp
  rw [columnFault?_eq_none_iff, hknown, and_comm]

/-- The columns of targets that all set the same ones are those of the first. -/
theorem mem_keysOf_iff (hsome : targets ≠ []) (hequal : ∀ t ∈ targets, t.columns = keysOf targets) {name : String} :
    name ∈ keysOf targets ↔ ∃ t ∈ targets, name ∈ t.values.map (·.1) := by
  have hcolumns : ∀ t ∈ targets, (name ∈ keysOf targets ↔ name ∈ t.values.map (·.1)) := by
    intro t ht
    rw [← hequal t ht, Target.columns, Text.mem_sortedSet]
  constructor
  · intro h
    obtain ⟨t, ht⟩ := List.exists_mem_of_ne_nil _ hsome
    exact ⟨t, ht, (hcolumns t ht).mp h⟩
  · rintro ⟨t, ht, h⟩
    exact (hcolumns t ht).mpr h

theorem sets_iff {name : String} :
    Sets targets constant name ↔ (∃ t ∈ targets, name ∈ t.values.map (·.1)) ∨ name ∈ constant.map (·.1) := by
  constructor
  · rintro (⟨t, ht, h⟩ | h)
    · exact .inl ⟨t, ht, h⟩
    · exact .inr h
  · rintro (⟨t, ht, h⟩ | h)
    · exact .perTarget t ht h
    · exact .forAll h

/-- Columns are accepted where targets set the same ones, which can be set, none of them both ways, and some at all. -/
theorem not_rejectsColumns_iff (hsome : targets ≠ []) :
    ¬ RejectsColumns m targets constant ↔ checkColumns m targets constant = .ok () := by
  rw [checkColumns_eq_ok_iff]
  constructor
  · intro h
    have hequal : ∀ t ∈ targets, t.columns = keysOf targets := by
      obtain ⟨first, rest, rfl⟩ := List.exists_cons_of_ne_nil hsome
      intro t ht
      refine sortedSet_eq_iff.mpr fun name => ⟨fun hname => ?_, fun hname => ?_⟩
      · by_contra hnot
        exact h (.unequal t first ht List.mem_cons_self name hname hnot)
      · by_contra hnot
        exact h (.unequal first t List.mem_cons_self ht name hname hnot)
    have hset : ∀ {name}, name ∈ keysOf targets ++ constant.map (·.1) ↔ Sets targets constant name := by
      intro name
      rw [List.mem_append, mem_keysOf_iff hsome hequal, sets_iff]
    refine ⟨hequal, ?_, ?_, ?_⟩
    · intro name hname
      rw [columnFault?_eq_none_iff_exists]
      refine ⟨?_, ?_⟩
      · by_contra hunknown
        exact h (.unknown name (hset.mp hname) fun c hc heq => hunknown ⟨c, hc, heq⟩)
      · rintro rfl
        exact h (.identity (hset.mp hname))
    · intro name hname hconstant
      obtain ⟨t, ht, hname⟩ := (mem_keysOf_iff hsome hequal).mp hname
      exact h (.twice name t ht hname hconstant)
    · intro hkeys hconstant
      refine h (.nothing fun name hname => ?_)
      have hmem := hset.mpr hname
      rw [hkeys, hconstant] at hmem
      cases hmem
  · rintro ⟨hequal, hknown, honce, hsets⟩
    have hset : ∀ {name}, name ∈ keysOf targets ++ constant.map (·.1) ↔ Sets targets constant name := by
      intro name
      rw [List.mem_append, mem_keysOf_iff hsome hequal, sets_iff]
    rintro (⟨t, u, ht, hu, name, h, h'⟩ | ⟨name, hname, h⟩ | hname | ⟨name, t, ht, h, h'⟩ | h)
    · have hsame : t.columns = u.columns := (hequal t ht).trans (hequal u hu).symm
      exact h' ((sortedSet_eq_iff.mp hsame name).mp h)
    · obtain ⟨⟨c, hc, heq⟩, -⟩ := columnFault?_eq_none_iff_exists.mp (hknown name (hset.mpr hname))
      exact h c hc heq
    · exact (columnFault?_eq_none_iff_exists.mp (hknown _ (hset.mpr hname))).2 rfl
    · exact honce name ((mem_keysOf_iff hsome hequal).mpr ⟨t, ht, h⟩) h'
    · have hnone : ∀ name, name ∉ keysOf targets ++ constant.map (·.1) := fun name hname => h name (hset.mp hname)
      obtain ⟨hkeys, hconstant⟩ := List.append_eq_nil_iff.mp (List.eq_nil_iff_forall_not_mem.mpr hnone)
      exact hsets hkeys (List.map_eq_nil_iff.mp hconstant)

/-! ## Planning -/

/-- What is no batch is refused at once, whatever the evaluator is, and nothing is changed. Else the evaluator compiles
one fragment, for the registered column, and what is planned is a batch of all targets with that fragment. Unless the
evaluator itself refuses a batch, a batch is refused exactly for what it is. -/
structure ChecksFirst (plan : Evaluator → Sys Batch) (s : Subject) (r : Request) (m : Mapping) (sys : System)
    (rejected : Prop) : Prop where
  refuses : rejected → ∃ fault, ∀ e, plan e sys = (.error (.batch fault), sys)
  compiles : ¬ rejected → ∃ make : Fragment → Batch,
    (∀ f, (make f).fragment = f ∧ (make f).targets.length = r.targets.length) ∧
    ∀ e, plan e sys = (do
      let id ← e.compile s r.action r.type (.text m.columnRef)
      return make (← Sys.embedFragment id (some m.columnRef))) sys
  refused_iff : ∀ e : Evaluator,
    (∀ fault, (e.compile s r.action r.type (.text m.columnRef) sys).1 ≠ .error (.batch fault)) →
    ((∃ fault, (plan e sys).1 = .error (.batch fault)) ↔ rejected)

/-- Placing a fragment is no check of the batch. -/
theorem embedFragment_ne_batch (id : FragmentId) (column : Option String) (sys : System) (fault : BatchFault) :
    (Sys.embedFragment id column sys).1 ≠ .error (.batch fault) := by
  have houtcome : (Sys.embedFragment id column sys).1 = (sys.fragments.embed id column).1 := by
    unfold Sys.embedFragment
    rw [Sys.get_bind_apply]
    rcases sys.fragments.embed id column with ⟨_ | _, pool⟩ <;> rfl
  rw [houtcome]
  unfold FragmentPool.embed
  cases sys.fragments.get? id with
  | none => simp
  | some f => cases hembed : f.embed column <;> simp [hembed]

/-- Planning that refuses what is to be refused, and places a fragment else, checks first. -/
theorem checksFirst_of {plan : Evaluator → Sys Batch} {s : Subject} {r : Request} {sys : System} {rejected : Prop}
    (config : Config) (change : Change) (hrefuses : rejected → ∃ fault, ∀ e, plan e sys = (.error (.batch fault), sys))
    (hcompiles : ¬ rejected → ∀ e, plan e sys = restrict e config s r m change sys) :
    ChecksFirst plan s r m sys rejected where
  refuses := hrefuses
  compiles h :=
    ⟨fun fragment => ⟨s, r.action, r.type, m, r.targets, change,
      if r.excludeSelf && s.type == r.type then some s.id else none, fragment, config⟩,
      fun f => ⟨rfl, rfl⟩, hcompiles h⟩
  refused_iff e he := by
    constructor
    · rintro ⟨fault, hfault⟩
      by_contra hnot
      rw [hcompiles hnot e, restrict] at hfault
      -- the fault is the evaluator's or that of placing the fragment, and neither is one of a batch
      rcases hcompile : e.compile s r.action r.type (.text m.columnRef) sys with ⟨f | id, sys₁⟩
      · rw [Sys.bind_of_error hcompile] at hfault
        obtain rfl := Except.error.inj hfault
        exact he fault (congrArg Prod.fst hcompile)
      · rw [Sys.bind_of_ok hcompile] at hfault
        rcases hembed : Sys.embedFragment id (some m.columnRef) sys₁ with ⟨f | fragment, sys₂⟩
        · rw [Sys.bind_of_error hembed] at hfault
          obtain rfl := Except.error.inj hfault
          exact embedFragment_ne_batch id _ sys₁ fault (congrArg Prod.fst hembed)
        · rw [Sys.bind_of_ok hembed] at hfault
          cases hfault
    · intro h
      obtain ⟨fault, hfault⟩ := hrefuses h
      exact ⟨fault, congrArg Prod.fst (hfault e)⟩

/-- Planning on resources of a registered type checks the batch before anything else, an update also for the columns it
sets. The identities are such as can be looked up, texts and numbers among them. -/
theorem planning_checks_first (given : Option Config) (s : Subject) (r : Request) {sys : System}
    (hlookup : sys.globals.registry.lookup r.type = .ok m) (hkeys : ∀ t ∈ r.targets, t.identity.isKey = true) :
    ChecksFirst (fun e => planUpdate e given s r) s r m sys
        (Rejects (given.getD sys.globals.config) r.targets ∨ RejectsColumns m r.targets r.constant) ∧
      ChecksFirst (fun e => planDelete e given s r) s r m sys (Rejects (given.getD sys.globals.config) r.targets) := by
  have htargets : ∀ {config}, ¬ Rejects config r.targets → checkTargets config r.targets = .ok () := fun h => by
    simpa using mt (rejects_iff hkeys).mpr h
  have hsome : ∀ {config}, ¬ Rejects config r.targets → r.targets ≠ [] := fun h hnone => h (.none hnone)
  refine ⟨checksFirst_of (given.getD sys.globals.config) (.update (keysOf r.targets) r.constant) ?_ ?_,
    checksFirst_of (given.getD sys.globals.config) .delete ?_ ?_⟩
  · intro hrejected
    by_cases h : Rejects (given.getD sys.globals.config) r.targets
    · obtain ⟨fault, hfault⟩ := exists_fault_of_rejects hkeys h
      exact ⟨fault, fun e => planUpdate_of_invalid hlookup hfault⟩
    · cases hchecked : checkColumns m r.targets r.constant with
      | error fault => exact ⟨fault, fun e => planUpdate_of_invalid_columns hlookup (htargets h) hchecked⟩
      | ok => exact absurd (hrejected.resolve_left h) ((not_rejectsColumns_iff (hsome h)).mpr hchecked)
  · intro h e
    obtain ⟨h, hcolumns⟩ := not_or.mp h
    exact planUpdate_of_valid hlookup (htargets h) ((not_rejectsColumns_iff (hsome h)).mp hcolumns)
  · intro h
    obtain ⟨fault, hfault⟩ := exists_fault_of_rejects hkeys h
    exact ⟨fault, fun e => planDelete_of_invalid hlookup hfault⟩
  · intro h e
    exact planDelete_of_valid hlookup (htargets h)

end RowGuard.Batch

namespace RowGuard.Notes

open Batch

/-- Gives a note a new title and a new identity. -/
def renumber : Request where
  action := .text "edit"
  type := .text "Note"
  targets := [⟨.int 1, [("title", .text "first")]⟩]
  constant := [("id", .int 3)]

theorem accepts_retitle : ¬ (Rejects {} retitle.targets ∨ RejectsColumns mapping retitle.targets []) := by
  obtain ⟨htargets, hcolumns, _⟩ := valid_retitle
  rintro (h | h)
  · exact (rejects_iff (by decide)).mp h htargets
  · exact (not_rejectsColumns_iff (by decide)).mpr hcolumns h

/-- New titles have one fragment compiled and placed in a batch of two targets, and a new identity is refused, by
whatever evaluator. -/
theorem planning_checks_notes_first :
    system.globals.registry.lookup (.text "Note") = .ok mapping ∧
      (∀ t ∈ retitle.targets, t.identity.isKey = true) ∧ (∀ t ∈ renumber.targets, t.identity.isKey = true) ∧
      (∃ make : Fragment → Batch, (∀ f, (make f).fragment = f ∧ (make f).targets.length = 2) ∧
        ∀ e : Evaluator, planUpdate e none editor retitle system = (do
          let id ← e.compile editor (.text "edit") (.text "Note") (.text "notes.id")
          return make (← Sys.embedFragment id (some "notes.id"))) system) ∧
      ∃ fault, ∀ e, planUpdate e none editor renumber system = (.error (.batch fault), system) := by
  have hretitle : ∀ t ∈ retitle.targets, t.identity.isKey = true := by decide
  have hrenumber : ∀ t ∈ renumber.targets, t.identity.isKey = true := by decide
  obtain ⟨hplans, -⟩ := planning_checks_first none editor retitle lookup_note hretitle
  obtain ⟨hrefuses, -⟩ := planning_checks_first none editor renumber lookup_note hrenumber
  refine ⟨lookup_note, hretitle, hrenumber, hplans.compiles accepts_retitle, hrefuses.refuses (.inr ?_)⟩
  exact .identity (.forAll (by decide))

end RowGuard.Notes

/-! ## The identity under another label -/

namespace RowGuard.Crew

open Batch

def name : Column := { name := "user_name", type := .text, isKey := true, label := "username" }

/-- People, whose names have another label than the name of their column. -/
def people : Schema := ⟨"people", [name]⟩

def mapping : Mapping := ⟨.text "Person", people, name⟩

def system : System :=
  { disk := ⟨[⟨people, [[.text "ann"]]⟩]⟩, globals := { registry := ⟨[mapping]⟩ } }

/-- Gives ann another name. -/
def rename : Request where
  action := .text "edit"
  type := .text "Person"
  targets := [⟨.text "ann", [("username", .text "eve")]⟩]

/-- The fragment for editing people, as it is placed in a statement. -/
def fragment : Fragment :=
  { Fragment.ofText (.text "people.user_name") (.text "1 = 1") (.text "edit") (.text "Person") with embedded := true }

/-- The batch that the request is planned to be. -/
def batch : Batch where
  subject := Notes.editor
  action := rename.action
  type := rename.type
  mapping := mapping
  targets := rename.targets
  change := .update ["username"] []
  excluded := none
  fragment := fragment
  config := {}

/-- The system when the request has been planned. -/
def planned : System := { system with fragments := ⟨#[fragment]⟩, watch := { calls := .int 1 } }

theorem planUpdate_rename : planUpdate Notes.evaluator none Notes.editor rename system = (.ok batch, planned) := by
  have hlookup : system.globals.registry.lookup (.text "Person") = .ok mapping := by
    simp [Registry.lookup, Registry.get?, system, mapping, Data.requireKey]
    rfl
  obtain ⟨htargets, hcolumns, hkeys⟩ : checkTargets (none.getD system.globals.config) rename.targets = .ok () ∧
      checkColumns mapping rename.targets rename.constant = .ok () ∧ keysOf rename.targets = ["username"] := by
    decide +kernel
  rw [planUpdate_of_valid hlookup htargets hcolumns, hkeys]
  rfl

/-- An update may set the identity column, by its label: it is planned and carried out, and ann's name has changed. -/
theorem identity_is_renamed :
    mapping.table.labelled? "username" = some mapping.identity ∧
      planUpdate Notes.evaluator none Notes.editor rename system = (.ok batch, planned) ∧
      ∃ sys', (planUpdate Notes.evaluator none Notes.editor rename >>= execute (.engine true)) system = (.ok 1, sys') ∧
        sys'.disk.rows "people" = [[.text "eve"]] := by
  have houtcome : batch.outcome planned.others planned.disk = (.ok 1, ⟨[⟨people, [[.text "eve"]]⟩]⟩) := by
    decide +kernel
  obtain ⟨sys', hexecute, hdisk⟩ := execute_engine_apply batch planned
  rw [houtcome] at hexecute hdisk
  refine ⟨rfl, planUpdate_rename, sys', (Sys.bind_of_ok planUpdate_rename).trans hexecute, ?_⟩
  rw [hdisk]
  rfl

end RowGuard.Crew
