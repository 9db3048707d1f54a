import RowGuard.Facts.Query
import RowGuard.Proofs.Outcome
import RowGuard.Sql.Piece

/-!
# Quotation in SQL text

What a reader of string literals makes of a text that is put together from parts: the text between the
literals, with a gap for each, and the texts that the literals stand for (`Sql.Reads`). Names without a quote
stand between literals, a value written as a literal is one of them, and a fact query whose own literals
end brings the same literals wherever it stands (`FactQuery.alike_render`).
-/

namespace RowGuard

open Outcome

namespace Sql

/-- The text contains no single quote. -/
def QuoteFree (s : String) : Prop := '\'' ∉ s.toList

instance (s : String) : Decidable (QuoteFree s) := inferInstanceAs (Decidable (¬ _))

/-- Every literal that begins in the text ends in it. -/
def IsClosed (s : String) : Prop := (pieces s.toList).isSome = true

instance (s : String) : Decidable (IsClosed s) := inferInstanceAs (Decidable ((pieces s.toList).isSome = true))

/-- The texts that the literals of a text stand for, in order. -/
def quoted (s : String) : List String := ((pieces s.toList).getD []).filterMap Piece.text?

/-- A text consists of the text between its literals, with a gap for each, and of the texts that these
stand for. -/
def Reads (s : String) (between : List (Option Char)) (literals : List String) : Prop :=
  ∃ ps, pieces s.toList = some ps ∧ ps.map Piece.char? = between ∧ ps.filterMap Piece.text? = literals

/-! ### Characters of a text -/

section Characters

variable {c : Char} {s : String}

theorem not_mem_intercalate_iff (hs : c ∉ s.toList) {texts : List String} :
    c ∉ (s.intercalate texts).toList ↔ ∀ t ∈ texts, c ∉ t.toList := by
  induction texts with
  | nil => simp
  | cons t rest ih =>
    cases rest with
    | nil => simp
    | cons u rest =>
      rw [String.intercalate_cons_cons, String.toList_append, String.toList_append, List.forall_mem_cons, ← ih]
      simp [hs]

/-- Numbers are written in digits. -/
theorem not_mem_toString_nat (hc : c.isDigit = false) (n : Nat) : c ∉ (toString n).toList := by
  intro h
  have hdigit := Nat.isDigit_of_mem_toDigits (b := 10) (by decide) (by decide) (n := n) (c := c)
    (by simpa [toString] using h)
  simp [hc] at hdigit

/-- Doubling one character adds no other one. -/
theorem not_mem_doubled {q : Char} (hq : q ≠ c) {cs : List Char} (h : c ∉ cs) :
    c ∉ cs.flatMap fun c => if c = q then [q, q] else [c] := by
  intro hmem
  obtain ⟨c', hc', hmem⟩ := List.mem_flatMap.mp hmem
  have hne : c' ≠ c := fun heq => h (heq ▸ hc')
  split at hmem
  · exact hq (by simpa [eq_comm] using hmem)
  · exact hne (by simpa [eq_comm] using hmem)

theorem not_mem_escapePercent (d : Dialect) (hc : '%' ≠ c) {cs : List Char} (h : c ∉ cs) : c ∉ escapePercent d cs := by
  unfold escapePercent
  split
  · exact not_mem_doubled hc h
  · exact h

/-- A name keeps its characters, and quoting it adds none but double quotes and percent signs. -/
theorem not_mem_name (d : Dialect) (hquote : '"' ≠ c) (hpercent : '%' ≠ c) (h : c ∉ s.toList) :
    c ∉ (name d s).toList := by
  unfold name
  split
  · exact h
  · have hdoubled := not_mem_escapePercent d hpercent (not_mem_doubled hquote h)
    simp only [String.toList_append, String.toList_ofList, List.mem_append, not_or]
    refine ⟨⟨?_, hdoubled⟩, ?_⟩
    · simpa using hquote.symm
    · simpa using hquote.symm

end Characters

namespace QuoteFree

variable {s t : String}

theorem append (hs : QuoteFree s) (ht : QuoteFree t) : QuoteFree (s ++ t) := by
  unfold QuoteFree at *
  simp [hs, ht]

theorem ofList {cs : List Char} (h : '\'' ∉ cs) : QuoteFree (String.ofList cs) := by
  simpa [QuoteFree] using h

theorem intercalate {texts : List String} (hs : QuoteFree s) (h : ∀ t ∈ texts, QuoteFree t) :
    QuoteFree (s.intercalate texts) :=
  (not_mem_intercalate_iff hs).mpr h

theorem toString_nat (n : Nat) : QuoteFree (toString n) := not_mem_toString_nat (by decide) n

theorem name (d : Dialect) (h : QuoteFree s) : QuoteFree (name d s) :=
  not_mem_name d (by decide) (by decide) h

theorem column (d : Dialect) (hs : QuoteFree s) (ht : QuoteFree t) : QuoteFree (column d s t) :=
  ((name d hs).append (by decide)).append (name d ht)

end QuoteFree

/-- Texts, one for each of some subjects, that differ in what their literals stand for and in nothing else. -/
def Alike {ι : Type} (text : ι → String) (literals : ι → List String) : Prop :=
  ∃ between, ∀ i, Reads (text i) between (literals i)

namespace Alike

variable {ι : Type} {s t : ι → String} {literals others : ι → List String} {u : String}

theorem isClosed (h : Alike s literals) (i : ι) : IsClosed (s i) := by
  obtain ⟨_, h⟩ := h
  obtain ⟨ps, hps, _⟩ := h i
  exact Option.isSome_iff_exists.mpr ⟨ps, hps⟩

theorem quoted_eq (h : Alike s literals) (i : ι) : quoted (s i) = literals i := by
  obtain ⟨_, h⟩ := h
  obtain ⟨ps, hps, _, hliterals⟩ := h i
  simp [quoted, hps, hliterals]

theorem of_isClosed (h : IsClosed u) : Alike (fun _ : ι => u) fun _ => quoted u := by
  obtain ⟨ps, hps⟩ := Option.isSome_iff_exists.mp h
  exact ⟨_, fun _ => ⟨ps, hps, rfl, by simp [quoted, hps]⟩⟩

theorem of_quoteFree (h : QuoteFree u) : Alike (fun _ : ι => u) fun _ => [] := by
  refine ⟨u.toList.map some, fun _ => ⟨u.toList.map .char, ?_, ?_, ?_⟩⟩
  · simpa [pieces] using pieces_append_of_not_mem h []
  · simp [Function.comp_def, Piece.char?]
  · simp [Piece.text?]

/-- A text written as a literal is one literal, whatever it contains. -/
theorem textLiteral (text : ι → String) : Alike (fun i => textLiteral .sqlite (text i)) fun i => [text i] :=
  ⟨[none], fun i => ⟨[.text (text i)], pieces_textLiteral _, rfl, rfl⟩⟩

/-- Text without quotes goes before anything. -/
theorem after (h : Alike t others) (hu : QuoteFree u) : Alike (fun i => u ++ t i) others := by
  obtain ⟨between, h⟩ := h
  refine ⟨u.toList.map some ++ between, ?_⟩
  intro i
  obtain ⟨ps, hps, rfl, hliterals⟩ := h i
  refine ⟨u.toList.map .char ++ ps, ?_, ?_, ?_⟩
  · rw [String.toList_append, pieces_append_of_not_mem hu, hps]
    rfl
  · simp [Function.comp_def, Piece.char?]
  · simpa [Function.comp_def, Piece.text?] using hliterals

/-- Two texts one after the other, of which the second does not begin with a quote. -/
theorem append (hs : Alike s literals) (ht : Alike t others) (hhead : ∀ i, (t i).toList.head? ≠ some '\'') :
    Alike (fun i => s i ++ t i) fun i => literals i ++ others i := by
  obtain ⟨between, hs⟩ := hs
  obtain ⟨more, ht⟩ := ht
  refine ⟨between ++ more, ?_⟩
  intro i
  obtain ⟨ps, hps, rfl, hps'⟩ := hs i
  obtain ⟨qs, hqs, rfl, hqs'⟩ := ht i
  exact ⟨ps ++ qs, by rw [String.toList_append, pieces_append hps hqs (hhead i)], by simp, by simp [hps', hqs']⟩

/-- Texts in front of others, with a separator where there are others. -/
theorem intercalate_cons {sep : String} {rest : ι → List String} {ends : Bool} (hs : Alike s literals)
    (hrest : Alike (fun i => sep.intercalate (rest i)) others) (hends : ∀ i, (rest i).isEmpty = ends)
    (hsep : QuoteFree sep) (hne : sep ≠ "") :
    Alike (fun i => sep.intercalate (s i :: rest i)) fun i => literals i ++ others i := by
  cases ends with
  | true =>
    obtain ⟨between, hs⟩ := hs
    refine ⟨between, ?_⟩
    intro i
    have hnil : rest i = [] := List.isEmpty_iff.mp (hends i)
    have hothers : others i = [] := by
      rw [← hrest.quoted_eq i, hnil]
      simp [quoted, pieces]
    simpa [hnil, hothers] using hs i
  | false =>
    have hjoined : (fun i => sep.intercalate (s i :: rest i)) = fun i => s i ++ (sep ++ sep.intercalate (rest i)) := by
      funext i
      rw [String.intercalate_cons_of_ne_nil (by simpa using hends i), String.append_assoc]
    rw [hjoined]
    refine hs.append (hrest.after hsep) ?_
    intro i
    cases hchars : sep.toList with
    | nil => exact absurd (String.toList_eq_nil_iff.mp hchars) hne
    | cons c cs =>
      have hc : c ≠ '\'' := fun heq => hsep (by simp [hchars, heq])
      simpa [hchars] using hc

end Alike

end Sql

open Sql

/-! ## Fact queries -/

/-- Text that ends each of its literals is still such after text without quotes. -/
theorem Sql.IsClosed.after {s t : String} (ht : IsClosed t) (hs : QuoteFree s) : IsClosed (s ++ t) :=
  ((Alike.of_isClosed ht).after hs).isClosed ()

theorem Sql.IsClosed.of_quoteFree {s : String} (hs : QuoteFree s) : IsClosed s :=
  (Alike.of_quoteFree hs).isClosed ()

namespace RowFilter

/-- The filter's column has no quote, and each literal of what it compares with ends. -/
def IsClosed : RowFilter → Prop
  | equals col type value => QuoteFree col ∧ ∀ t, Sql.literal .sqlite type value = .ok t → Sql.IsClosed t
  | isTrue col => QuoteFree col

theorem isClosed_render {f : RowFilter} {table t : String} (h : f.IsClosed) (htable : QuoteFree table)
    (ht : f.render .sqlite table = .ok t) : Sql.IsClosed t := by
  have hcolumn : ∀ col, QuoteFree col → QuoteFree (Sql.column .sqlite table col) := fun _ hcol =>
    .column _ htable hcol
  cases f with
  | isTrue col =>
    obtain rfl := Except.ok.inj ht
    exact .of_quoteFree ((QuoteFree.append (hcolumn col h) (by decide)).append (by decide))
  | equals col type value =>
    obtain ⟨hcol, hvalue⟩ := h
    unfold render at ht
    split at ht
    · next hcase =>
      obtain ⟨rfl, _, _⟩ := RowFilter.equals.inj hcase
      obtain rfl := Except.ok.inj ht
      exact .of_quoteFree ((hcolumn col hcol).append (by decide))
    · next hcase =>
      obtain ⟨rfl, rfl, rfl⟩ := RowFilter.equals.inj hcase
      obtain ⟨u, hu, ht⟩ := bind_eq_ok_iff.mp ht
      obtain rfl := Except.ok.inj ht
      exact (hvalue u hu).after ((hcolumn col hcol).append (t := " = ") (by decide))
    · next hcase => exact nomatch hcase

end RowFilter

namespace Selection

/-- The filter of a selection as it ends the statement. -/
def filterText (s : Selection) : Except SqlFault String :=
  match s.filter with
  | none => pure ""
  | some f => do pure (" \nWHERE " ++ (← f.render .sqlite s.table))

/-- No name in the selection has a quote, and each literal of its filter ends. -/
structure IsClosed (s : Selection) : Prop where
  table : QuoteFree s.table
  columns : ∀ c ∈ s.columns, QuoteFree c.name
  filter : ∀ f, s.filter = some f → f.IsClosed

theorem column_mem_of_repetitionsFrom {table : String} {r : Repetition} {names before : List String} {next : Nat}
    (h : some r ∈ repetitionsFrom table before next names) : r.column ∈ names := by
  induction names generalizing before next with
  | nil => simp [repetitionsFrom] at h
  | cons name rest ih =>
    unfold repetitionsFrom at h
    split at h
    · rcases List.mem_cons.mp h with h | h
      · exact Option.some.inj h ▸ List.mem_cons_self
      · exact List.mem_cons_of_mem _ (ih h)
    · rcases List.mem_cons.mp h with h | h
      · exact nomatch h
      · exact List.mem_cons_of_mem _ (ih h)

/-- A selection's text without its filter. -/
def headText (before : List Repetition) (s : Selection) : String :=
  let all := before ++ s.repetitions.filterMap id
  let columns := (s.columns.zip s.repetitions).map fun (c, r) =>
    c.render .sqlite s.table ((r.map (Repetition.label all)).getD c.name)
  "SELECT " ++ (if s.distinct then "DISTINCT " else "") ++ ", ".intercalate columns ++ " \nFROM " ++
    Sql.name .sqlite s.table

theorem render_eq (before : List Repetition) (s : Selection) :
    s.render .sqlite before = s.filterText.map (s.headText before ++ ·) := by
  unfold render filterText
  cases s.filter with
  | none => rfl
  | some f =>
    cases hf : f.render .sqlite s.table <;>
      simp [hf, bind, Except.bind, pure, Except.pure, Except.map, headText]

theorem quoteFree_headText {s : Selection} (hs : s.IsClosed) (before : List Repetition) :
    QuoteFree (s.headText before) := by
  have hdistinct : QuoteFree (if s.distinct then "DISTINCT " else "") := by
    split <;> decide
  refine .append (.append (.append (.append (by decide) hdistinct) (.intercalate (by decide) ?_)) (by decide))
    (.name _ hs.table)
  intro text htext
  obtain ⟨⟨c, r⟩, hmem, rfl⟩ := List.mem_map.mp htext
  have hcolumn := hs.columns c (List.of_mem_zip hmem).1
  have hlabel : QuoteFree ((r.map (Repetition.label (before ++ s.repetitions.filterMap id))).getD c.name) := by
    cases r with
    | none => exact hcolumn
    | some r =>
      obtain ⟨c', hc', hname⟩ := List.mem_map.mp (column_mem_of_repetitionsFrom (List.of_mem_zip hmem).2)
      exact ((hname ▸ hs.columns c' hc').append (by decide)).append (.toString_nat _)
  have hsource : QuoteFree (Sql.column .sqlite s.table c.name) := .column _ hs.table hcolumn
  refine .append (.append ?_ (by decide)) (.name _ hlabel)
  split
  · exact (QuoteFree.append (by decide) hsource).append (by decide)
  · exact hsource

theorem isClosed_filterText {s : Selection} {t : String} (hs : s.IsClosed) (h : s.filterText = .ok t) :
    Sql.IsClosed t := by
  unfold filterText at h
  split at h
  · obtain rfl := Except.ok.inj h
    exact .of_quoteFree (by decide)
  · next f hf =>
    obtain ⟨u, hu, h⟩ := bind_eq_ok_iff.mp h
    obtain rfl := Except.ok.inj h
    exact (RowFilter.isClosed_render (hs.filter f hf) hs.table hu).after (s := " \nWHERE ") (by decide)

end Selection

namespace FactQuery

/-- Each literal of the query's text ends, and no name that the query gives has a quote. -/
def IsClosed : FactQuery → Prop
  | selection s => s.IsClosed
  | sql text columns => (∀ c ∈ columns, QuoteFree c.plain) ∧ Sql.IsClosed (String.ofList (plainText text.toList))

/-- The texts of the query's own literals. -/
def quoted (q : FactQuery) : List String :=
  match q.render .sqlite [] with
  | .ok text => Sql.quoted text
  | .error _ => []

/-- A query brings its own literals wherever it stands. -/
theorem alike_render {ι : Type} {q : FactQuery} {before : List FactQuery} {t : String} (hq : q.IsClosed)
    (h : q.render .sqlite before = .ok t) : Alike (fun _ : ι => t) fun _ => q.quoted := by
  cases q with
  | sql text columns =>
    obtain rfl := Except.ok.inj h
    exact .of_isClosed hq.2
  | selection s =>
    have hs : s.IsClosed := hq
    replace h : s.render .sqlite (before.flatMap repetitions) = .ok t := h
    rw [Selection.render_eq] at h
    cases htail : s.filterText with
    | error e => simp [htail, Except.map] at h
    | ok tail =>
      obtain rfl : _ ++ tail = t := by simpa [htail, Except.map] using h
      have htailClosed := Selection.isClosed_filterText hs htail
      have hquoted : (selection s).quoted = Sql.quoted tail := by
        have hfirst : (selection s).render .sqlite [] = .ok (s.headText [] ++ tail) := by
          show s.render .sqlite [] = _
          rw [Selection.render_eq, htail]
          rfl
        unfold quoted
        rw [hfirst]
        have halike : Alike (fun _ : Unit => tail) fun _ => Sql.quoted tail := .of_isClosed htailClosed
        exact (halike.after (Selection.quoteFree_headText hs [])).quoted_eq ()
      rw [hquoted]
      exact (Alike.of_isClosed htailClosed).after (Selection.quoteFree_headText hs _)

end FactQuery

end RowGuard
