import RowGuard.Batch.Render
import RowGuard.Proofs.Evaluator.Inlining

/-!
# Fragments in planned statements

A guarded operation compiles its fragments for the caller and places each of them in one statement (`Planned`). In
the dialect whose driver undoes the doubling of percent signs, the text of a fragment is doubled once more when it
is placed, so that it stands in the statement as it was compiled once the driver has undone that
(`Planned.contains_enclosed`). The names in it have been doubled when it was compiled, which nothing undoes: a name
with a percent sign reads as another name (`Planned.subject_doubled`, `Shredder.percent_misread`).
-/

namespace RowGuard

open Outcome Sql

/-! ## Percent signs -/

namespace Sql

/-- A text with its percent signs doubled. -/
def doubled (s : String) : String := String.ofList (escapePercent .postgresql s.toList)

/-- A text as the driver hands it on. -/
def undoubled (s : String) : String := String.ofList (unescapePercent s.toList)

theorem unescapePercent_append_cons {c : Char} (hc : c ≠ '%') (a b : List Char) :
    unescapePercent (a ++ c :: b) = unescapePercent a ++ unescapePercent (c :: b) := by
  fun_induction unescapePercent a with
  | case1 => rfl
  | case2 rest ih => simp [unescapePercent, ih]
  | case3 x rest hx ih =>
    rw [List.cons_append, List.cons_append, ← ih]
    refine unescapePercent.eq_3 x (rest ++ c :: b) ?_
    rintro rest' rfl heq
    cases rest with
    | nil => exact hc (List.cons.inj heq).1
    | cons y ys => exact hx ys rfl (by rw [(List.cons.inj heq).1])

theorem escapePercent_cons_of_ne {c : Char} (hc : c ≠ '%') (cs : List Char) :
    escapePercent .postgresql (c :: cs) = c :: escapePercent .postgresql cs := by
  simp [escapePercent, Dialect.doublesPercent, hc]

theorem escapePercent_percent_cons (cs : List Char) :
    escapePercent .postgresql ('%' :: cs) = '%' :: '%' :: escapePercent .postgresql cs := by
  simp [escapePercent, Dialect.doublesPercent]

theorem unescapePercent_escapePercent_append (cs b : List Char) :
    unescapePercent (escapePercent .postgresql cs ++ b) = cs ++ unescapePercent b := by
  induction cs with
  | nil => rfl
  | cons c rest ih =>
    by_cases hc : c = '%'
    · subst hc
      simp [escapePercent_percent_cons, unescapePercent, ih]
    · simp [escapePercent_cons_of_ne hc, unescapePercent, hc, ih]

/-- A text that has been doubled stands between other texts as it was, once percent signs are single again. -/
theorem undoubled_append_doubled {s : String} {c : Char} {cs : List Char} (hs : s.toList = c :: cs) (hc : c ≠ '%')
    (before after : String) :
    undoubled (before ++ doubled s ++ after) = undoubled before ++ s ++ undoubled after := by
  have hdoubled : (doubled s).toList = c :: escapePercent .postgresql cs := by
    rw [doubled, String.toList_ofList, hs, escapePercent_cons_of_ne hc]
  have hparts : unescapePercent (c :: (escapePercent .postgresql cs ++ after.toList)) =
      s.toList ++ unescapePercent after.toList := by
    rw [← List.cons_append, ← escapePercent_cons_of_ne hc, ← hs, unescapePercent_escapePercent_append]
  rw [String.ext_iff, undoubled, undoubled, undoubled, String.toList_ofList, String.toList_append,
    String.toList_append, hdoubled, List.append_assoc, List.cons_append, unescapePercent_append_cons hc, hparts]
  simp

theorem length_le_escapePercent (cs : List Char) : cs.length ≤ (escapePercent .postgresql cs).length := by
  induction cs with
  | nil => exact Nat.le_refl _
  | cons c rest ih =>
    by_cases hc : c = '%'
    · subst hc
      rw [escapePercent_percent_cons]
      simp only [List.length_cons]
      omega
    · rw [escapePercent_cons_of_ne hc]
      simpa using ih

theorem escapePercent_eq_self_iff {cs : List Char} : escapePercent .postgresql cs = cs ↔ '%' ∉ cs := by
  induction cs with
  | nil => simp [escapePercent, Dialect.doublesPercent]
  | cons c rest ih =>
    by_cases hc : c = '%'
    · subst hc
      rw [escapePercent_percent_cons]
      refine iff_of_false ?_ (by simp)
      intro heq
      have hlength := congrArg List.length heq
      have hle := length_le_escapePercent rest
      simp only [List.length_cons] at hlength
      omega
    · simp [escapePercent_cons_of_ne hc, ih, Ne.symm hc]

/-- Only a text without percent signs stays the same. -/
theorem doubled_eq_self_iff {s : String} : doubled s = s ↔ '%' ∉ s.toList := by
  rw [← escapePercent_eq_self_iff, String.ext_iff, doubled, String.toList_ofList]

theorem encodeText_escapePercent (cs : List Char) :
    encodeText (escapePercent .postgresql cs) = escapePercent .postgresql (encodeText cs) := by
  have hquotes : ∀ (q : Char) (rest : List Char),
      encodeText (q :: rest) = (if q = '\'' then ['\'', '\''] else [q]) ++ encodeText rest := fun _ _ => rfl
  induction cs with
  | nil => rfl
  | cons c rest ih =>
    by_cases hc : c = '%'
    · subst hc
      simp [escapePercent_percent_cons, hquotes, ih]
    · rw [escapePercent_cons_of_ne hc, hquotes, hquotes, ih]
      -- a quote is doubled to two characters that are no percent signs either
      split
      · simp [escapePercent_cons_of_ne]
      · simp [escapePercent_cons_of_ne hc]

/-- In the dialect that doubles percent signs a literal reads as the text with its percent signs doubled. -/
theorem pieces_textLiteral_postgresql (s : String) :
    pieces (textLiteral .postgresql s).toList = some [.text (doubled s)] := by
  have hliteral : textLiteral .postgresql s = textLiteral .sqlite (doubled s) := by
    rw [textLiteral, ← encodeText_escapePercent, textLiteral, doubled, String.toList_ofList]
    rfl
  rw [hliteral, pieces_textLiteral]

/-! ## Parts of a text -/

/-- The text contains the part as it is. -/
def Contains (text part : String) : Prop := ∃ before after, text = before ++ part ++ after

namespace Contains

variable {text part : String}

theorem refl (text : String) : Contains text text := ⟨"", "", by simp⟩

theorem append (h : Contains text part) (a b : String) : Contains (a ++ text ++ b) part := by
  obtain ⟨before, after, rfl⟩ := h
  exact ⟨a ++ before, after ++ b, by simp only [String.append_assoc]⟩

theorem intercalate {separator : String} {texts : List String} (h : ∃ text ∈ texts, Contains text part) :
    Contains (separator.intercalate texts) part := by
  induction texts with
  | nil => simp at h
  | cons first rest ih =>
    obtain ⟨text, hmem, hpart⟩ := h
    cases rest with
    | nil =>
      obtain rfl := List.mem_singleton.mp hmem
      simpa using hpart
    | cons second rest =>
      rw [String.intercalate_cons_cons]
      rcases List.mem_cons.mp hmem with rfl | hmem
      · simpa [String.append_assoc] using hpart.append "" (separator ++ separator.intercalate (second :: rest))
      · simpa [String.append_assoc] using (ih ⟨text, hmem, hpart⟩).append (first ++ separator) ""

end Contains

end Sql

/-! ## What is planned -/

namespace LocalEvaluator

variable {ν : Type} [BEq ν] [ReflBEq ν] [Name ν] {e : LocalEvaluator ν} {config : Config} {s : Subject} {n : Nat}
  {sys sys' : System} {id : FragmentId} {f : Fragment}

/-- The fragment has the text that some action is compiled to for the subject. -/
def Wrote (e : LocalEvaluator ν) (config : Config) (s : Subject) (f : Fragment) : Prop :=
  ∃ action type columnRef c sql, e.condition config s action type = .ok c ∧
    c.forColumn e.dialect columnRef = .ok sql ∧ f.sql = .text sql

/-- The fragments from a place on are the evaluator's for the subject. -/
structure Grows (e : LocalEvaluator ν) (config : Config) (s : Subject) (n : Nat) (sys : System) : Prop where
  configIn : e.configIn sys = config
  size_le : n ≤ sys.fragments.all.size
  wrote : ∀ id f, n ≤ id → sys.fragments.get? id = some f → e.Wrote config s f

theorem grows_self (e : LocalEvaluator ν) (s : Subject) (sys : System) :
    e.Grows (e.configIn sys) s sys.fragments.all.size sys where
  configIn := rfl
  size_le := Nat.le_refl _
  wrote id f hid hget := by simp [FragmentPool.get?, Array.getElem?_eq_none hid] at hget

namespace Grows

theorem compile {action type columnRef : Data} (h : e.Grows config s n sys)
    (hcompile : e.compile s action type columnRef sys = (.ok id, sys')) : e.Grows config s n sys' ∧ n ≤ id := by
  obtain ⟨c, sql, hc, hsql, rfl, hkept, hall⟩ := compile_eq_ok hcompile
  refine ⟨⟨?_, ?_, ?_⟩, h.size_le⟩
  · rw [← h.configIn, LocalEvaluator.configIn, LocalEvaluator.configIn, hkept.globals]
  · rw [hall, Array.size_push]
    exact Nat.le_succ_of_le h.size_le
  · intro id f hid hget
    rw [FragmentPool.get?, hall, Array.getElem?_push] at hget
    split at hget
    · obtain rfl := Option.some.inj hget
      exact ⟨action, type, columnRef, c, sql, h.configIn ▸ hc, hsql, rfl⟩
    · exact h.wrote id f hid hget

/-- Putting a fragment of the evaluator's in a place. -/
theorem withFragment (h : e.Grows config s n sys) (hf : e.Wrote config s f) :
    e.Grows config s n (sys.withFragment id f) where
  configIn := h.configIn
  size_le := by simpa [System.withFragment] using h.size_le
  wrote other g hother hget := by
    rw [FragmentPool.get?, System.withFragment, Array.getElem?_setIfInBounds] at hget
    split at hget
    · split at hget
      · exact Option.some.inj hget ▸ hf
      · cases hget
    · exact h.wrote other g hother hget

/-- A fragment that is placed keeps its text. -/
theorem embed {column : Option String} (h : e.Grows config s n sys) (hid : n ≤ id)
    (hembed : Sys.embedFragment id column sys = (.ok f, sys')) : e.Grows config s n sys' ∧ e.Wrote config s f := by
  obtain ⟨g, hget, hplaced, rfl⟩ := Sys.embedFragment_eq_ok hembed
  -- only the mark that it was placed is new
  obtain ⟨action, type, columnRef, c, sql, hc, hsql, htext⟩ := h.wrote id g hid hget
  obtain ⟨-, -, rfl⟩ := Fragment.embed_eq_ok_iff.mp hplaced
  have hwrote : e.Wrote config s { g with embedded := true } := ⟨action, type, columnRef, c, sql, hc, hsql, htext⟩
  exact ⟨h.withFragment hwrote, hwrote⟩

theorem planExtra {type permission : Data} {m : Mapping} {extra : Data × Fragment} (h : e.Grows config s n sys)
    (hplan : Listing.planExtra e.toEvaluator s type m permission sys = (.ok extra, sys')) :
    e.Grows config s n sys' ∧ e.Wrote config s extra.2 := by
  obtain ⟨id, sys₁, hcompile, -, hembed⟩ := Listing.exists_of_planExtra hplan
  obtain ⟨hgrows, hid⟩ := h.compile hcompile
  exact hgrows.embed hid hembed

theorem planExtras {type : Data} {permissions : List Data} {m : Mapping} {extras : List (Data × Fragment)}
    (h : e.Grows config s n sys)
    (hplan : permissions.mapM (Listing.planExtra e.toEvaluator s type m) sys = (.ok extras, sys')) :
    e.Grows config s n sys' ∧ ∀ extra ∈ extras, e.Wrote config s extra.2 := by
  induction permissions generalizing sys extras with
  | nil =>
    rw [List.mapM_nil] at hplan
    obtain ⟨rfl, rfl⟩ := Sys.of_pure_eq_ok hplan
    exact ⟨h, by simp⟩
  | cons permission rest ih =>
    obtain ⟨extra, sys₁, others, hfirst, hrest, rfl⟩ := Sys.mapM_cons_eq_ok hplan
    obtain ⟨hgrows, hwrote⟩ := h.planExtra hfirst
    obtain ⟨hlast, hothers⟩ := ih hgrows hrest
    exact ⟨hlast, List.forall_mem_cons.mpr ⟨hwrote, hothers⟩⟩

end Grows

/-- Every fragment of a planned listing is the evaluator's. -/
theorem wrote_of_plan {r : Listing.Request} {p : Listing.Plan}
    (h : Listing.plan e.toEvaluator s r sys = (.ok p, sys')) (hf : f ∈ p.fragments) :
    e.Wrote (e.configIn sys) s f := by
  obtain ⟨m, id, sys₁, sys₂, -, hcompile, hextras, hread⟩ := Listing.exists_of_plan h
  obtain ⟨hgrows, hid⟩ := (e.grows_self s sys).compile hcompile
  obtain ⟨hfurther, hwrote⟩ := hgrows.planExtras hextras
  rcases List.mem_cons.mp hf with rfl | hf
  · exact (hfurther.embed hid hread).2
  · obtain ⟨extra, hextra, rfl⟩ := List.mem_map.mp hf
    exact hwrote extra hextra

variable {r : Batch.Request} {b : Batch} {m : Mapping} {given : Option Config}

theorem wrote_of_restrict {change : Change}
    (h : Batch.restrict e.toEvaluator config s r m change sys = (.ok b, sys')) :
    e.Wrote (e.configIn sys) s b.fragment := by
  unfold Batch.restrict at h
  obtain ⟨id, sys₁, hcompile, h⟩ := Sys.bind_eq_ok h
  obtain ⟨f, sys₂, hembed, h⟩ := Sys.bind_eq_ok h
  obtain ⟨rfl, rfl⟩ := Sys.of_pure_eq_ok h
  obtain ⟨hgrows, hid⟩ := (e.grows_self s sys).compile hcompile
  exact (hgrows.embed hid hembed).2

theorem wrote_of_planUpdate (h : Batch.planUpdate e.toEvaluator given s r sys = (.ok b, sys')) :
    e.Wrote (e.configIn sys) s b.fragment := by
  unfold Batch.planUpdate Batch.lookup at h
  rw [Sys.bind_of_ok (Sys.configOr_apply _)] at h
  obtain ⟨m, sys₁, hlookup, h⟩ := Sys.bind_eq_ok h
  obtain ⟨_, sys₂, htargets, h⟩ := Sys.bind_eq_ok h
  obtain ⟨_, sys₃, hcolumns, h⟩ := Sys.bind_eq_ok h
  obtain rfl := (Sys.ofExcept_eq_ok hlookup).2
  obtain rfl := (Sys.ofExcept_eq_ok htargets).2
  obtain rfl := (Sys.ofExcept_eq_ok hcolumns).2
  exact wrote_of_restrict h

theorem wrote_of_planDelete (h : Batch.planDelete e.toEvaluator given s r sys = (.ok b, sys')) :
    e.Wrote (e.configIn sys) s b.fragment := by
  unfold Batch.planDelete Batch.lookup at h
  rw [Sys.bind_of_ok (Sys.configOr_apply _)] at h
  obtain ⟨m, sys₁, hlookup, h⟩ := Sys.bind_eq_ok h
  obtain ⟨_, sys₂, htargets, h⟩ := Sys.bind_eq_ok h
  obtain rfl := (Sys.ofExcept_eq_ok hlookup).2
  obtain rfl := (Sys.ofExcept_eq_ok htargets).2
  exact wrote_of_restrict h

/-- The evaluator's text of a fragment is the one that the action compiles to in the state of the planning. -/
theorem Wrote.exists_compiledText (h : e.Wrote (e.configIn sys) s f) :
    ∃ action type columnRef sql, f.sql = .text sql ∧ e.compiledText s action type columnRef sys = some sql := by
  obtain ⟨action, type, columnRef, c, sql, hc, hsql, htext⟩ := h
  exact ⟨action, type, columnRef, sql, htext, compiledText_eq_some_iff.mpr ⟨c, hc, hsql⟩⟩

end LocalEvaluator

/-! ## Statements -/

/-- A statement that a guarded operation plans for the subject with the evaluator, as it is handed to the driver, and
a fragment that it was planned with. -/
inductive Planned {ν : Type} [BEq ν] [ReflBEq ν] [Name ν] (e : LocalEvaluator ν) (s : Subject) (sys : System) :
    Fragment → String → Prop where
  | select {r : Listing.Request} {p : Listing.Plan} {sys' : System} {f : Fragment}
      (plan : Listing.plan e.toEvaluator s r sys = (.ok p, sys')) (placed : f ∈ p.fragments) :
      Planned e s sys f (p.render e.dialect)
  | update {given : Option Config} {r : Batch.Request} {b : Batch} {sys' : System} {text : String}
      (plan : Batch.planUpdate e.toEvaluator given s r sys = (.ok b, sys')) (render : b.render e.dialect = .ok text) :
      Planned e s sys b.fragment text
  | delete {given : Option Config} {r : Batch.Request} {b : Batch} {sys' : System} {text : String}
      (plan : Batch.planDelete e.toEvaluator given s r sys = (.ok b, sys')) (render : b.render e.dialect = .ok text) :
      Planned e s sys b.fragment text

theorem Fragment.contains_asFilter (d : Dialect) (f : Fragment) : Contains (f.asFilter d) (f.element d) := by
  cases d with
  | sqlite => exact ⟨"", " = 1", by simp [asFilter]⟩
  | postgresql => exact .refl _

theorem Fragment.contains_asColumn (d : Dialect) (label : String) (f : Fragment) :
    Contains (f.asColumn d label) (f.element d) :=
  ⟨"", " AS " ++ Sql.name d label, by simp [asColumn, String.append_assoc]⟩

theorem Sql.contains_selectFrom_of_column {d : Dialect} {table part : String} {columns conditions order : List String}
    (h : ∃ column ∈ columns, Contains column part) : Contains (selectFrom d table columns conditions order) part := by
  have hcolumns : Contains (", ".intercalate columns) part := .intercalate h
  have happended := hcolumns.append "SELECT " (" \nFROM " ++ name d table ++ " \nWHERE " ++ conjunction conditions ++
    (if order.isEmpty then "" else " ORDER BY " ++ ", ".intercalate order))
  simpa [selectFrom, String.append_assoc] using happended

theorem Sql.contains_selectFrom_of_condition {d : Dialect} {table part : String}
    {columns conditions order : List String} (h : ∃ condition ∈ conditions, Contains condition part) :
    Contains (selectFrom d table columns conditions order) part :=
  (Contains.intercalate h).append _ _

/-- The statement of a listing contains each of its fragments. -/
theorem Listing.Plan.contains_render {p : Plan} (d : Dialect) {f : Fragment} (hf : f ∈ p.fragments) :
    Contains (p.render d) (f.element d) := by
  rcases List.mem_cons.mp hf with rfl | hf
  · exact contains_selectFrom_of_condition ⟨_, List.mem_cons_self, p.read.contains_asFilter d⟩
  · obtain ⟨⟨permission, f⟩, hextra, rfl⟩ := List.mem_map.mp hf
    obtain ⟨n, hn⟩ := List.getElem?_of_mem hextra
    have hplace : ((permission, f), n) ∈ p.extras.zipIdx := List.mem_zipIdx_iff_getElem?.mpr hn
    refine contains_selectFrom_of_column ⟨f.asColumn d (label n), List.mem_append_right _ ?_, f.contains_asColumn d _⟩
    exact List.mem_map.mpr ⟨_, hplace, rfl⟩

/-- The conditions of a batch's statement contain its fragment. -/
theorem Batch.contains_conjunction {d : Dialect} {b : Batch} {conditions : List String}
    (h : b.renderConditions d = .ok conditions) : Contains (conjunction conditions) (b.fragment.element d) := by
  obtain ⟨_, _, h⟩ := bind_eq_ok_iff.mp h
  obtain ⟨_, _, h⟩ := bind_eq_ok_iff.mp h
  obtain rfl := Except.ok.inj h
  exact .intercalate ⟨_, List.mem_append_right _ List.mem_cons_self, b.fragment.contains_asFilter d⟩

theorem Batch.contains_render {d : Dialect} {b : Batch} {text : String} (h : b.render d = .ok text) :
    Contains text (b.fragment.element d) := by
  unfold render at h
  cases hchange : b.change with
  | delete =>
    rw [hchange] at h
    obtain ⟨conditions, hconditions, h⟩ := bind_eq_ok_iff.mp h
    obtain rfl := Except.ok.inj h
    have happended := (contains_conjunction hconditions).append
      ("DELETE FROM " ++ Sql.name d b.mapping.table.name ++ " WHERE ") ""
    simpa [deleteFrom, String.append_assoc] using happended
  | update keys constant =>
    rw [hchange] at h
    obtain ⟨assignments, _, h⟩ := bind_eq_ok_iff.mp h
    obtain ⟨source, _, h⟩ := bind_eq_ok_iff.mp h
    obtain ⟨conditions, hconditions, h⟩ := bind_eq_ok_iff.mp h
    obtain rfl := Except.ok.inj h
    have happended := (contains_conjunction hconditions).append
      ("UPDATE " ++ Sql.name d b.mapping.table.name ++ " SET " ++ ", ".intercalate assignments ++
        (source.elim "" (" FROM " ++ ·)) ++ " WHERE ") ""
    simpa [updateTable, String.append_assoc] using happended

namespace Planned

variable {ν : Type} [BEq ν] [ReflBEq ν] [Name ν] {e : LocalEvaluator ν} {s : Subject} {sys : System} {f : Fragment}
  {text : String}

theorem contains_element (h : Planned e s sys f text) : Contains text (f.element e.dialect) := by
  cases h with
  | select _ placed => exact Listing.Plan.contains_render e.dialect placed
  | update _ render => exact Batch.contains_render render
  | delete _ render => exact Batch.contains_render render

theorem wrote (h : Planned e s sys f text) : e.Wrote (e.configIn sys) s f := by
  cases h with
  | select plan placed => exact LocalEvaluator.wrote_of_plan plan placed
  | update plan _ => exact LocalEvaluator.wrote_of_planUpdate plan
  | delete plan _ => exact LocalEvaluator.wrote_of_planDelete plan

/-- After the driver has undone the doubling of percent signs, the fragment stands in the statement as it was
compiled. -/
theorem contains_enclosed (hdialect : e.dialect = .postgresql) (h : Planned e s sys f text) :
    Contains (undoubled text) f.enclosed := by
  obtain ⟨before, after, rfl⟩ := h.contains_element
  -- it begins with a parenthesis, so no percent sign before it is paired with one of its own
  have henclosed : f.enclosed.toList = '(' :: (f.sql.plain ++ ")").toList := by
    simp [Fragment.enclosed, String.append_assoc]
  rw [hdialect]
  exact ⟨undoubled before, undoubled after, undoubled_append_doubled henclosed (by decide) before after⟩

/-- In a planned statement the fragment is, once the driver has undone the doubling of percent signs, a text that is
the same for every name but for the name's literal. That literal has been doubled when the condition was compiled
already: it reads as the name exactly if the name has no percent sign. -/
theorem subject_doubled {kind : Data} {name : String} (hdialect : e.dialect = .postgresql)
    (htype : ∀ t, e.facts.idType e.policy.actorType = some t → t.sort = .texts)
    (h : Planned e ⟨kind, .text name⟩ sys f text) :
    ∃ action type columnRef, ∃ template : Template,
      (∀ other, e.compiledText ⟨kind, .text other⟩ action type columnRef sys =
        some (template.fill (textLiteral .postgresql other))) ∧
      Contains (undoubled text) ("(" ++ template.fill (textLiteral .postgresql name) ++ ")") ∧
      pieces (textLiteral .postgresql name).toList = some [.text (doubled name)] ∧
      (doubled name = name ↔ '%' ∉ name.toList) := by
  obtain ⟨action, type, columnRef, sql, hsql, hcompiled⟩ := h.wrote.exists_compiledText
  obtain ⟨template, htexts⟩ := LocalEvaluator.exists_template (s := ⟨kind, .text name⟩) hcompiled
  have hfilled : ∀ other, e.compiledText ⟨kind, .text other⟩ action type columnRef sys =
      some (template.fill (textLiteral .postgresql other)) := by
    intro other
    refine (htexts (.text other) _).mpr ⟨_, fun _ => ?_, rfl⟩
    rw [hdialect]
    exact Literal.render_text htype other
  refine ⟨action, type, columnRef, template, hfilled, ?_, pieces_textLiteral_postgresql name, doubled_eq_self_iff⟩
  have henclosed : f.enclosed = "(" ++ template.fill (textLiteral .postgresql name) ++ ")" := by
    rw [Fragment.enclosed, hsql, Option.some.inj ((hfilled name).symm.trans hcompiled)]
    rfl
  exact henclosed ▸ h.contains_enclosed hdialect

end Planned

/-! ### A name with a percent sign -/

namespace Shredder

/-- The documents of an archive, with a name as the identity. -/
def docs : Schema := ⟨"docs", [{ name := "id", type := .text, isKey := true }]⟩

def system : System where
  disk := ⟨[⟨docs, [[.text "d"]]⟩]⟩
  globals := { registry := ⟨[⟨.text "Doc", docs, { name := "id", type := .text, isKey := true }⟩]⟩ }

def evaluator : LocalEvaluator := ⟨Archive.policy, Archive.facts Archive.unremarkable, .postgresql, false, none⟩

/-- Deletes a document that may be read. -/
def removal : Batch.Request where
  action := .text "read"
  type := .text "Doc"
  targets := [⟨.text "d", []⟩]

/-- The deletion for a user of the given name: its fragment and its statement. -/
def planned (name : String) : Option (Fragment × String) :=
  match Batch.planDelete evaluator.toEvaluator none ⟨.text "User", .text name⟩ removal system with
  | (.ok b, _) => (b.render evaluator.dialect).toOption.map (b.fragment, ·)
  | (.error _, _) => none

theorem planned_statement {name text : String} {f : Fragment} (h : planned name = some (f, text)) :
    Planned evaluator ⟨.text "User", .text name⟩ system f text := by
  unfold planned at h
  split at h
  next b sys' hplan =>
    obtain ⟨rendered, hrender, heq⟩ := Option.map_eq_some_iff.mp h
    obtain ⟨rfl, rfl⟩ := Prod.mk.inj heq
    refine .delete hplan ?_
    cases htext : b.render evaluator.dialect with
    | error fault => simp [htext, Except.toOption] at hrender
    | ok text => simpa [htext, Except.toOption] using hrender
  next => cases h

/-- What a reader of literals finds in the statement that the driver hands on. -/
theorem exists_planned_percent :
    ∃ f text, Planned evaluator ⟨.text "User", .text "a%b"⟩ system f text ∧
      quoted (undoubled text) = ["d", "a%%b", "reader"] := by
  have hread : (planned "a%b").map (fun entry => quoted (undoubled entry.2)) = some ["d", "a%%b", "reader"] := by
    -- the driver's characters are read as they are, without making a text of them
    simp only [quoted, undoubled, String.toList_ofList]
    decide +kernel
  obtain ⟨⟨f, text⟩, hplanned, hquoted⟩ := Option.map_eq_some_iff.mp hread
  exact ⟨f, text, planned_statement hplanned, hquoted⟩

theorem idType_eq : evaluator.facts.idType evaluator.policy.actorType = some .text := by decide +kernel

theorem subject_doubled_percent :
    evaluator.dialect = .postgresql ∧
      (∀ t, evaluator.facts.idType evaluator.policy.actorType = some t → t.sort = .texts) ∧
      ∃ f text, Planned evaluator ⟨.text "User", .text "a%b"⟩ system f text ∧
        ∃ action type columnRef, ∃ template : Template,
          (∀ other, evaluator.compiledText ⟨.text "User", .text other⟩ action type columnRef system =
            some (template.fill (textLiteral .postgresql other))) ∧
          Contains (undoubled text) ("(" ++ template.fill (textLiteral .postgresql "a%b") ++ ")") ∧
          pieces (textLiteral .postgresql "a%b").toList = some [.text (doubled "a%b")] ∧
          (doubled "a%b" = "a%b" ↔ '%' ∉ "a%b".toList) := by
  have htexts : ∀ t, evaluator.facts.idType evaluator.policy.actorType = some t → t.sort = .texts := by
    intro t ht
    obtain rfl := Option.some.inj (ht.symm.trans idType_eq)
    rfl
  obtain ⟨f, text, hplanned, _⟩ := exists_planned_percent
  exact ⟨rfl, htexts, f, text, hplanned, hplanned.subject_doubled rfl htexts⟩

/-- The statement that is sent for a user whose name has a percent sign speaks of another user, and of that one
alone. -/
theorem percent_misread :
    ∃ f text, Planned evaluator ⟨.text "User", .text "a%b"⟩ system f text ∧
      "a%%b" ∈ quoted (undoubled text) ∧ "a%b" ∉ quoted (undoubled text) := by
  obtain ⟨f, text, hplanned, hquoted⟩ := exists_planned_percent
  exact ⟨f, text, hplanned, hquoted ▸ by decide, hquoted ▸ by decide⟩

end Shredder

end RowGuard
