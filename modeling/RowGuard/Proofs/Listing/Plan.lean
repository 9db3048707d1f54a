import RowGuard.Listing.Execution
import RowGuard.Proofs.Evaluator.Local
import RowGuard.Proofs.Outcome

/-!
# Planning a listing

Planning a listing of the local evaluator depends on the configuration and on the registered tables alone
(`plan_outcome`). It succeeds as soon as every permission compiles, and the plan's fragments are those of the
conditions (`exists_planned`, `plannedFor_of_planned`). The listing is then what the plan selects from the
database that is seen (`list_outcome`).
-/

namespace RowGuard

namespace System

/-- The second system has at least the fragments of the first. -/
structure KeepsFragments (a b : System) : Prop where
  kept : a.Kept b
  size_le : a.fragments.all.size ≤ b.fragments.all.size
  same : ∀ id < a.fragments.all.size, b.fragments.get? id = a.fragments.get? id

namespace KeepsFragments

variable {a b c : System}

theorem refl (a : System) : a.KeepsFragments a := ⟨.refl a, Nat.le_refl _, fun _ _ => rfl⟩

theorem trans (hab : a.KeepsFragments b) (hbc : b.KeepsFragments c) : a.KeepsFragments c where
  kept := hab.kept.trans hbc.kept
  size_le := Nat.le_trans hab.size_le hbc.size_le
  same id hid := (hbc.same id (Nat.lt_of_lt_of_le hid hab.size_le)).trans (hab.same id hid)

end KeepsFragments

/-- The system with another fragment in a place. -/
def withFragment (sys : System) (id : FragmentId) (f : Fragment) : System :=
  { sys with fragments := ⟨sys.fragments.all.setIfInBounds id f⟩ }

theorem kept_withFragment (sys : System) (id : FragmentId) (f : Fragment) :
    sys.Kept (sys.withFragment id f) := ⟨rfl, rfl, rfl, rfl, rfl⟩

end System

/-- All that placing a fragment can do. -/
theorem Fragment.embed_eq_ok_iff {f placed : Fragment} {column : Option String} :
    f.embed column = .ok placed ↔
      f.embedded = false ∧ (∀ c, column = some c → f.columnRef = .text c) ∧ placed = { f with embedded := true } := by
  unfold embed
  cases f.embedded with
  | true => simp
  | false =>
    cases column with
    | none => simp [eq_comm]
    | some c =>
      by_cases hc : f.columnRef = .text c
      · simp [hc, eq_comm]
      · simp [hc]

namespace Sys

variable {sys : System}

/-- A fresh fragment can be placed for its own column. -/
theorem embedFragment_apply {id : FragmentId} {f : Fragment} {ref : String}
    (hf : sys.fragments.get? id = some f) (hfresh : f.embedded = false)
    (href : f.columnRef = .text ref) :
    embedFragment id (some ref) sys =
      (.ok { f with embedded := true }, sys.withFragment id { f with embedded := true }) := by
  have hembed : f.embed (some ref) = .ok { f with embedded := true } := by
    unfold Fragment.embed
    simp [hfresh, href]
  unfold embedFragment FragmentPool.embed
  simp [hf, hembed, System.withFragment]

/-- A fragment that was placed was fresh, and is marked in its place. -/
theorem embedFragment_eq_ok {sys' : System} {id : FragmentId} {f : Fragment} {column : Option String}
    (h : embedFragment id column sys = (.ok f, sys')) :
    ∃ g, sys.fragments.get? id = some g ∧ g.embed column = .ok f ∧ sys' = sys.withFragment id f := by
  unfold embedFragment FragmentPool.embed at h
  rw [Sys.get_bind_apply] at h
  cases hget : sys.fragments.get? id with
  | none =>
    rw [hget] at h
    exact absurd (congrArg Prod.fst h) (by simp)
  | some g =>
    rw [hget] at h
    cases hplaced : g.embed column with
    | error fault =>
      simp only [hplaced] at h
      exact absurd (congrArg Prod.fst h) (by simp)
    | ok placed =>
      simp only [hplaced] at h
      rw [Sys.modify_bind_apply, Sys.ofExcept_apply, Prod.mk.injEq, Except.ok.injEq] at h
      obtain ⟨rfl, rfl⟩ := h
      exact ⟨g, rfl, hplaced, rfl⟩

end Sys

namespace Listing

open LocalEvaluator

variable {ν : Type} [BEq ν] [ReflBEq ν] [Name ν] {e : LocalEvaluator ν} {sys : System}
  {s : Subject} {type : Data} {m : Mapping}

/-- A further permission that was planned has been compiled and placed. -/
theorem exists_of_planExtra {e : Evaluator} {permission : Data} {extra : Data × Fragment} {sys' : System}
    (h : planExtra e s type m permission sys = (.ok extra, sys')) :
    ∃ id sys₁, e.compile s permission type (.text m.columnRef) sys = (.ok id, sys₁) ∧ extra.1 = permission ∧
      Sys.embedFragment id (some m.columnRef) sys₁ = (.ok extra.2, sys') := by
  unfold planExtra at h
  obtain ⟨id, sys₁, hcompile, h⟩ := Sys.bind_eq_ok h
  obtain ⟨f, sys₂, hembed, h⟩ := Sys.bind_eq_ok h
  obtain ⟨rfl, rfl⟩ := Sys.of_pure_eq_ok h
  exact ⟨id, sys₁, hcompile, rfl, hembed⟩

/-- A listing that was planned: reading has been compiled before the further permissions and placed after them. -/
theorem exists_of_plan {e : Evaluator} {r : Request} {p : Plan} {sys' : System}
    (h : plan e s r sys = (.ok p, sys')) :
    ∃ m id sys₁ sys₂, sys.globals.registry.lookup r.type = .ok m ∧
      e.compile s (.text readPermission) r.type (.text m.columnRef) sys = (.ok id, sys₁) ∧
      r.extras.mapM (planExtra e s r.type m) sys₁ = (.ok p.extras, sys₂) ∧
      Sys.embedFragment id (some m.columnRef) sys₂ = (.ok p.read, sys') := by
  unfold plan at h
  rw [Sys.get_bind_apply] at h
  obtain ⟨m, _, hlookup, h⟩ := Sys.bind_eq_ok h
  obtain ⟨_, _, hcheck, h⟩ := Sys.bind_eq_ok h
  obtain ⟨id, sys₁, hcompile, h⟩ := Sys.bind_eq_ok h
  obtain ⟨extras, sys₂, hextras, h⟩ := Sys.bind_eq_ok h
  obtain ⟨read, _, hread, h⟩ := Sys.bind_eq_ok h
  obtain ⟨rfl, rfl⟩ := Sys.of_pure_eq_ok h
  obtain ⟨hlookup, rfl⟩ := Sys.ofExcept_eq_ok hlookup
  obtain rfl := (Sys.ofExcept_eq_ok hcheck).2
  exact ⟨m, id, sys₁, sys₂, hlookup, hcompile, hextras, hread⟩

/-- An action compiles for the identity column of a mapping, to the condition and its text. -/
structure Compiles (e : LocalEvaluator ν) (config : Config) (s : Subject) (type : Data) (m : Mapping)
    (action : String) (c : Condition) (sql : String) : Prop where
  condition : e.condition config s (.text action) type = .ok c
  text : c.forColumn e.dialect (.text m.columnRef) = .ok sql

theorem Compiles.unique {config : Config} {action : String} {c c' : Condition} {sql sql' : String}
    (h : Compiles e config s type m action c sql) (h' : Compiles e config s type m action c' sql') :
    c = c' ∧ sql = sql' := by
  obtain rfl : c = c' := Except.ok.inj (h.condition.symm.trans h'.condition)
  exact ⟨rfl, Except.ok.inj (h.text.symm.trans h'.text)⟩

/-- The fragment of an action as it stands in a listing. -/
def placed (type : Data) (m : Mapping) (action : String) (c : Condition) (sql : String) : Fragment :=
  { fragmentFor (.text action) type (.text m.columnRef) c sql with embedded := true }

/-- What an action comes to in a listing: its fragment, or the fault of compiling it. -/
def fragment (e : LocalEvaluator ν) (config : Config) (s : Subject) (type : Data) (m : Mapping)
    (action : String) : Except Fault Fragment := do
  let c ← e.condition config s (.text action) type
  let sql ← c.forColumn e.dialect (.text m.columnRef)
  return placed type m action c sql

theorem fragment_eq_ok_iff {config : Config} {action : String} {f : Fragment} :
    fragment e config s type m action = .ok f ↔
      ∃ c sql, Compiles e config s type m action c sql ∧ f = placed type m action c sql := by
  refine placed_eq_ok_iff.trans (exists₂_congr fun c sql => ?_)
  exact ⟨fun ⟨hc, hsql, hf⟩ => ⟨⟨hc, hsql⟩, hf⟩, fun ⟨hcompiles, hf⟩ => ⟨hcompiles.condition, hcompiles.text, hf⟩⟩

/-- What cannot be compiled leaves everything as it was. -/
theorem compile_of_error {action : String} {f : Fault}
    (h : fragment e (e.configIn sys) s type m action = .error f) :
    e.compile s (.text action) type (.text m.columnRef) sys = (.error f, sys) :=
  compile_of_placed_error h

/-- A further permission is compiled to a fragment of its own and placed. -/
theorem planExtra_outcome (e : LocalEvaluator ν) (sys : System) (s : Subject) (type : Data) (m : Mapping)
    (action : String) : ∃ sys', planExtra e.toEvaluator s type m (.text action) sys =
        ((fragment e (e.configIn sys) s type m action).map (Prod.mk (.text action)), sys') ∧
      sys.KeepsFragments sys' := by
  cases hfragment : fragment e (e.configIn sys) s type m action with
  | error f =>
    refine ⟨sys, ?_, .refl sys⟩
    show (e.compile s (.text action) type (.text m.columnRef) >>= _) sys = _
    rw [Sys.bind_of_error (compile_of_error hfragment)]
    rfl
  | ok f =>
    obtain ⟨c, sql, hc, rfl⟩ := fragment_eq_ok_iff.mp hfragment
    obtain ⟨sys₁, hcompile, hkept, hall⟩ := compile_apply hc.condition hc.text
    have hget : sys₁.fragments.get? sys.fragments.all.size =
        some (fragmentFor (.text action) type (.text m.columnRef) c sql) := by
      unfold FragmentPool.get?
      rw [hall]
      simp
    refine ⟨sys₁.withFragment sys.fragments.all.size (placed type m action c sql), ?_, ?_⟩
    · show (e.compile s (.text action) type (.text m.columnRef) >>= _) sys = _
      rw [Sys.bind_of_ok hcompile, Sys.bind_of_ok (Sys.embedFragment_apply hget rfl rfl)]
      rfl
    · refine ⟨hkept.trans (sys₁.kept_withFragment _ _), ?_, ?_⟩
      · simp [System.withFragment, hall]
      · intro id hid
        unfold FragmentPool.get?
        simp only [System.withFragment, hall, Array.getElem?_setIfInBounds, Array.getElem?_push]
        have hne : id ≠ sys.fragments.all.size := by omega
        simp [hne, Ne.symm hne]

/-- The fragments of further permissions, up to the first that does not compile. -/
def furtherFragments (e : LocalEvaluator ν) (config : Config) (s : Subject) (type : Data) (m : Mapping)
    (actions : List String) : Except Fault (List (Data × Fragment)) :=
  actions.mapM fun a => (fragment e config s type m a).map (Prod.mk (.text a))

theorem furtherFragments_cons {config : Config} {a : String} {rest : List String} :
    furtherFragments e config s type m (a :: rest) = (do
      let first ← (fragment e config s type m a).map (Prod.mk (Data.text a))
      return first :: (← furtherFragments e config s type m rest)) := List.mapM_cons

/-- Further permissions are planned one after the other. -/
theorem planExtras_outcome (actions : List String) (sys : System) :
    ∃ sys', (actions.map Data.text).mapM (planExtra e.toEvaluator s type m) sys =
        (furtherFragments e (e.configIn sys) s type m actions, sys') ∧ sys.KeepsFragments sys' := by
  induction actions generalizing sys with
  | nil => exact ⟨sys, rfl, .refl sys⟩
  | cons a rest ih =>
    obtain ⟨sys₁, hfirst, hkept₁⟩ := planExtra_outcome e sys s type m a
    rw [List.map_cons, List.mapM_cons, furtherFragments_cons]
    cases hfragment : fragment e (e.configIn sys) s type m a with
    | error f =>
      rw [hfragment] at hfirst
      refine ⟨sys₁, ?_, hkept₁⟩
      rw [Sys.bind_of_error hfirst]
      rfl
    | ok f =>
      rw [hfragment] at hfirst
      -- the configuration is the same afterwards
      have hconfig : e.configIn sys₁ = e.configIn sys := by
        unfold configIn
        rw [hkept₁.kept.globals]
      obtain ⟨sys₂, hrest, hkept₂⟩ := ih sys₁
      rw [hconfig] at hrest
      refine ⟨sys₂, ?_, hkept₁.trans hkept₂⟩
      rw [Sys.bind_of_ok hfirst]
      cases hmore : furtherFragments e (e.configIn sys) s type m rest with
      | error g =>
        rw [hmore] at hrest
        rw [Sys.bind_of_error hrest]
        rfl
      | ok more =>
        rw [hmore] at hrest
        rw [Sys.bind_of_ok hrest]
        rfl

theorem furtherFragments_eq_ok_iff {config : Config} {actions : List String}
    {extras : List (Data × Fragment)} :
    furtherFragments e config s type m actions = .ok extras ↔
      List.Forall₂ (fun a extra => ∃ c sql, Compiles e config s type m a c sql ∧
        extra = (.text a, placed type m a c sql)) actions extras := by
  unfold furtherFragments
  rw [Outcome.mapM_eq_ok_iff]
  refine iff_of_eq (congrArg (fun R => List.Forall₂ R actions extras) ?_)
  funext a extra
  refine propext ⟨fun h => ?_, ?_⟩
  · cases hfragment : fragment e config s type m a with
    | error f =>
      rw [hfragment] at h
      cases h
    | ok f =>
      rw [hfragment] at h
      obtain ⟨c, sql, hc, rfl⟩ := fragment_eq_ok_iff.mp hfragment
      exact ⟨c, sql, hc, (Except.ok.inj h).symm⟩
  · rintro ⟨c, sql, hc, rfl⟩
    rw [fragment_eq_ok_iff.mpr ⟨c, sql, hc, rfl⟩]
    rfl

theorem eraseDups_texts {names : List String} (h : names.Nodup) :
    (names.map Data.text).eraseDups = names.map Data.text := by
  induction names with
  | nil => rfl
  | cons name rest ih =>
    have hrest : ((rest.map Data.text).filter fun d => !d == Data.text name) = rest.map Data.text := by
      rw [List.filter_eq_self]
      intro d hd
      obtain ⟨other, hother, rfl⟩ := List.mem_map.mp hd
      have hne : other ≠ name := fun heq => (List.nodup_cons.mp h).1 (heq ▸ hother)
      simp [hne]
    rw [List.map_cons, List.eraseDups_cons, hrest, ih (List.nodup_cons.mp h).2]

/-- A request for distinct permissions is accepted, if it sets the subject apart only among rows of its own type. -/
theorem check_of_nodup {extras : List String} {extractSelf : Bool} (h : extras.Nodup)
    (hself : extractSelf = true → s.type = type) :
    Request.check { type, extras := extras.map Data.text, extractSelf } s = .ok () := by
  have hkeys : (extras.map Data.text).all Data.isKey = true := by
    simp [Data.isKey]
  have hown : (extractSelf && s.type != type) = false := by
    rw [Bool.and_eq_false_imp]
    intro hextract
    rw [hself hextract]
    simp [bne]
  unfold Request.check
  simp [hkeys, eraseDups_texts h, hown]

/-- What planning a listing comes to. -/
def planned (e : LocalEvaluator ν) (config : Config) (registry : Registry) (s : Subject) (type : Data)
    (extras : List String) (extractSelf : Bool) : Except Fault Plan := do
  let m ← registry.lookup type
  Request.check { type, extras := extras.map Data.text, extractSelf } s
  let read ← fragment e config s type m readPermission
  let further ← furtherFragments e config s type m extras
  return ⟨s, m, read, further, [], extractSelf⟩

/-- The outcome of planning for rows in a given order. -/
def ordered (order : List SortKey) (outcome : Except Fault Plan) : Except Fault Plan :=
  outcome.map fun p => { p with order }

/-- Planning a listing depends on the configuration and on the registered tables alone, and the order that is asked
for is taken as it is. -/
theorem plan_outcome_of_order (e : LocalEvaluator ν) (s : Subject) (type : Data) (extras : List String)
    (extractSelf : Bool) (order : List SortKey) (sys : System) :
    ∃ sys', plan e.toEvaluator s { type, extras := extras.map Data.text, extractSelf, order } sys =
        (ordered order (planned e (e.configIn sys) sys.globals.registry s type extras extractSelf), sys') ∧
      sys.Kept sys' := by
  unfold plan planned
  rw [Sys.get_bind_apply]
  cases hlookup : sys.globals.registry.lookup type with
  | error f => exact ⟨sys, rfl, .refl sys⟩
  | ok m =>
    rw [Sys.ofExcept_ok, Sys.pure_bind_apply, Outcome.ok_bind]
    have hunordered : Request.check { type, extras := extras.map Data.text, extractSelf, order } s =
        Request.check { type, extras := extras.map Data.text, extractSelf } s := rfl
    rw [hunordered]
    cases hcheck : Request.check { type, extras := extras.map Data.text, extractSelf } s with
    | error f => exact ⟨sys, rfl, .refl sys⟩
    | ok _ =>
      rw [Sys.ofExcept_ok, Sys.pure_bind_apply, Outcome.ok_bind]
      show ∃ sys', (e.compile s (.text readPermission) type (.text m.columnRef) >>= _) sys = _ ∧ _
      cases hread : fragment e (e.configIn sys) s type m readPermission with
      | error f =>
        refine ⟨sys, ?_, .refl sys⟩
        rw [Sys.bind_of_error (compile_of_error hread)]
        rfl
      | ok read =>
        obtain ⟨c, sql, hc, rfl⟩ := fragment_eq_ok_iff.mp hread
        obtain ⟨sys₁, hcompile, hkept₁, hall⟩ := compile_apply hc.condition hc.text
        obtain ⟨sys₂, hextras, hkept₂⟩ := @planExtras_outcome _ _ _ _ e s type m extras sys₁
        have hconfig : e.configIn sys₁ = e.configIn sys := by
          unfold configIn
          rw [hkept₁.globals]
        rw [hconfig] at hextras
        rw [Sys.bind_of_ok hcompile, Outcome.ok_bind]
        cases hfurther : furtherFragments e (e.configIn sys) s type m extras with
        | error f =>
          rw [hfurther] at hextras
          refine ⟨sys₂, ?_, hkept₁.trans hkept₂.kept⟩
          rw [Sys.bind_of_error hextras]
          rfl
        | ok further =>
          rw [hfurther] at hextras
          -- the fragment for reading is still there, and fresh
          have hget : sys₂.fragments.get? sys.fragments.all.size =
              some (fragmentFor (.text readPermission) type (.text m.columnRef) c sql) := by
            rw [hkept₂.same _ (by simp [hall])]
            unfold FragmentPool.get?
            simp [hall]
          refine ⟨sys₂.withFragment sys.fragments.all.size (placed type m readPermission c sql), ?_,
            hkept₁.trans (hkept₂.kept.trans (sys₂.kept_withFragment _ _))⟩
          rw [Sys.bind_of_ok hextras, Sys.bind_of_ok (Sys.embedFragment_apply hget rfl rfl)]
          rfl

/-- Without an order of its own a listing is planned in that of identities. -/
theorem ordered_planned (e : LocalEvaluator ν) (config : Config) (registry : Registry) (s : Subject) (type : Data)
    (extras : List String) (extractSelf : Bool) :
    ordered [] (planned e config registry s type extras extractSelf) =
      planned e config registry s type extras extractSelf := by
  cases hplanned : planned e config registry s type extras extractSelf with
  | error f => rfl
  | ok p =>
    unfold planned at hplanned
    obtain ⟨m, _, hplanned⟩ := Outcome.bind_eq_ok_iff.mp hplanned
    obtain ⟨_, _, hplanned⟩ := Outcome.bind_eq_ok_iff.mp hplanned
    obtain ⟨read, _, hplanned⟩ := Outcome.bind_eq_ok_iff.mp hplanned
    obtain ⟨further, _, hplanned⟩ := Outcome.bind_eq_ok_iff.mp hplanned
    obtain rfl := Except.ok.inj hplanned
    rfl

/-- Planning a listing depends on the configuration and on the registered tables alone. -/
theorem plan_outcome (e : LocalEvaluator ν) (s : Subject) (type : Data) (extras : List String)
    (extractSelf : Bool) (sys : System) :
    ∃ sys', plan e.toEvaluator s { type, extras := extras.map Data.text, extractSelf } sys =
        (planned e (e.configIn sys) sys.globals.registry s type extras extractSelf, sys') ∧
      sys.Kept sys' := by
  rw [← ordered_planned]
  exact plan_outcome_of_order e s type extras extractSelf [] sys

/-- What a listing that could be planned consists of. -/
structure PlannedFor (e : LocalEvaluator ν) (config : Config) (s : Subject) (type : Data) (m : Mapping)
    (extras : List String) (p : Plan) : Prop where
  subject : p.subject = s
  mapping : p.mapping = m
  order : p.order = []
  read : ∃ c sql, Compiles e config s type m readPermission c sql ∧ p.read = placed type m readPermission c sql
  extras : List.Forall₂ (fun a extra => ∃ c sql, Compiles e config s type m a c sql ∧
    extra = (.text a, placed type m a c sql)) extras p.extras

theorem plannedFor_of_planned {config : Config} {registry : Registry} {extras : List String}
    {extractSelf : Bool} {p : Plan} (hlookup : registry.lookup type = .ok m)
    (h : planned e config registry s type extras extractSelf = .ok p) :
    PlannedFor e config s type m extras p ∧ p.extractSelf = extractSelf := by
  unfold planned at h
  rw [hlookup, Outcome.ok_bind] at h
  obtain ⟨_, _, h⟩ := Outcome.bind_eq_ok_iff.mp h
  obtain ⟨read, hread, h⟩ := Outcome.bind_eq_ok_iff.mp h
  obtain ⟨further, hfurther, h⟩ := Outcome.bind_eq_ok_iff.mp h
  obtain rfl := Except.ok.inj h
  exact ⟨⟨rfl, rfl, rfl, fragment_eq_ok_iff.mp hread, furtherFragments_eq_ok_iff.mp hfurther⟩, rfl⟩

/-- A listing that may be asked for is planned when reading and every further permission compile. -/
theorem exists_planned {config : Config} {registry : Registry} {extras : List String} {extractSelf : Bool}
    (hlookup : registry.lookup type = .ok m)
    (hcheck : Request.check { type, extras := extras.map Data.text, extractSelf } s = .ok ())
    (h : ∀ a ∈ readPermission :: extras, ∃ c sql, Compiles e config s type m a c sql) :
    ∃ p, planned e config registry s type extras extractSelf = .ok p := by
  obtain ⟨c, sql, hc⟩ := h readPermission List.mem_cons_self
  have hfurther : ∃ further, furtherFragments e config s type m extras = .ok further := by
    refine Outcome.exists_mapM_eq_ok fun a ha => ?_
    obtain ⟨c, sql, hc⟩ := h a (List.mem_cons_of_mem _ ha)
    exact ⟨_, by rw [fragment_eq_ok_iff.mpr ⟨c, sql, hc, rfl⟩]; rfl⟩
  obtain ⟨further, hfurther⟩ := hfurther
  unfold planned
  rw [hlookup, Outcome.ok_bind, hcheck, Outcome.ok_bind,
    fragment_eq_ok_iff.mpr ⟨c, sql, hc, rfl⟩, Outcome.ok_bind, hfurther]
  exact ⟨_, rfl⟩

/-! ## Running the plan -/

theorem Plan.statement_run (p : Plan) (db : Database) : (p.statement.run db).map (·.1) = p.select db := by
  show (Except.map (·.1) (do return (← p.select db, db) : Except Fault _)) = _
  cases p.select db <;> rfl

theorem logListed_apply (config : Config) (s : Subject) (r : Request) (l : Listing) (sys : System) :
    ∃ sys', logListed (some config) s r l sys = (.ok (), sys') := by
  unfold logListed
  rw [Sys.bind_of_ok (Sys.configOr_apply _)]
  cases hlogs : config.logs with
  | false => exact ⟨sys, by simp [hlogs]⟩
  | true => exact ⟨_, by simp [hlogs]; rfl⟩

/-- A listing is planned, and is then what its plan selects from the database that is seen. -/
theorem list_outcome_of_order {bind : Bind} {db : Database} (given : Option Config) (hsees : bind.Sees sys db)
    (extras : List String) (extractSelf : Bool) (order : List SortKey) :
    (list e.toEvaluator bind given s { type, extras := extras.map Data.text, extractSelf, order } sys).1 = (do
      let p ← ordered order (planned e (e.configIn sys) sys.globals.registry s type extras extractSelf)
      p.listing (← Scope.report (operation p.mapping.type) (p.select db))) := by
  obtain ⟨sys₁, hplan, hkept⟩ := plan_outcome_of_order e s type extras extractSelf order sys
  unfold list
  rw [Sys.bind_of_ok (Sys.configOr_apply given)]
  cases hplanned : ordered order (planned e (e.configIn sys) sys.globals.registry s type extras extractSelf) with
  | error f =>
    rw [hplanned] at hplan
    rw [Sys.bind_of_error hplan]
    rfl
  | ok p =>
    rw [hplanned] at hplan
    rw [Sys.bind_of_ok hplan, Outcome.ok_bind]
    have hwithin : (Scope.within bind (operation p.mapping.type) (Scope.execute p.statement) sys₁).1 =
        Scope.report (operation p.mapping.type) (p.select db) := by
      rw [Scope.within_execute_reading (hkept.sees hsees) rfl rfl, p.statement_run]
    have hexecute : (execute bind p sys₁).1 = (do
        p.listing (← Scope.report (operation p.mapping.type) (p.select db))) := by
      unfold execute
      cases hselect : Scope.report (operation p.mapping.type) (p.select db) with
      | error f =>
        rw [hselect] at hwithin
        rw [Sys.bind_of_error (Prod.ext hwithin rfl)]
        rfl
      | ok rows =>
        rw [hselect] at hwithin
        rw [Sys.bind_of_ok (Prod.ext hwithin rfl), Sys.ofExcept_apply]
        rfl
    rw [← hexecute]
    cases houtcome : execute bind p sys₁ with
    | mk outcome sys₂ =>
      cases outcome with
      | error f =>
        rw [Sys.bind_of_error houtcome]
      | ok l =>
        obtain ⟨sys₃, hlog⟩ := logListed_apply (given.getD sys.globals.config) s
          { type, extras := extras.map Data.text, extractSelf, order } l sys₂
        rw [Sys.bind_of_ok houtcome, Sys.bind_of_ok hlog]
        rfl

theorem list_outcome {bind : Bind} {db : Database} (given : Option Config) (hsees : bind.Sees sys db)
    (extras : List String) (extractSelf : Bool) :
    (list e.toEvaluator bind given s { type, extras := extras.map Data.text, extractSelf } sys).1 = (do
      let p ← planned e (e.configIn sys) sys.globals.registry s type extras extractSelf
      p.listing (← Scope.report (operation p.mapping.type) (p.select db))) := by
  rw [← ordered_planned]
  exact list_outcome_of_order given hsees extras extractSelf []

end Listing

end RowGuard
