import RowGuard.Proofs.Guarded.Embedding

/-!
# Placing fragments

A fragment can be placed in three ways: as an element of a statement, among the conditions of a statement and as a
result column. All three consume it, and none of them does so when it is refused. However the attempts at the fragments
of a pool are mixed, a fragment that was fresh goes to the first attempt that names no other column than its own, and
to no other (`FragmentPool.placesOnce`).
-/

namespace RowGuard

open Sql

/-- A column that a fragment may be placed for. One that stands in no table is known by its name alone. -/
structure Place where
  table : Option String := none
  column : String

/-- How a fragment refers to the column. -/
def Place.ref (p : Place) : String := p.table.elim p.column fun table => table ++ "." ++ p.column

/-- An attempt to place a fragment: as an element, after the conditions that a statement has already, or as a result
column under a label. -/
inductive Attempt where
  | element (id : FragmentId) (place : Option Place)
  | filter (id : FragmentId) (place : Place) (conditions : List String)
  | column (id : FragmentId) (place : Place) (label : String)

namespace Attempt

/-- The fragment that is to be placed. -/
def id : Attempt → FragmentId
  | element id _ => id
  | filter id _ _ => id
  | column id _ _ => id

/-- The column that the fragment is to be placed for, if one is given. -/
def place? : Attempt → Option Place
  | element _ place => place
  | filter _ place _ => some place
  | column _ place _ => some place

/-- What is written with the fragment once it has been placed. -/
def write (d : Dialect) (f : Fragment) : Attempt → Except Fault String
  | element _ _ => .ok (f.element d)
  | filter _ _ conditions => .ok (conjunction (conditions ++ [f.asFilter d]))
  | column _ _ label => f.labelled d (.text label)

/-- The attempt names no other column than the fragment's. -/
def Fits (a : Attempt) (f : Fragment) : Prop := ∀ place, a.place? = some place → f.columnRef = .text place.ref

/-- Whatever is written contains the fragment as it is. -/
theorem exists_write (d : Dialect) (f : Fragment) (a : Attempt) :
    ∃ text, a.write d f = .ok text ∧ Contains text (f.element d) := by
  cases a with
  | element id place => exact ⟨_, rfl, .refl _⟩
  | filter id place conditions =>
    exact ⟨_, rfl, .intercalate ⟨_, List.mem_append_right _ (List.mem_singleton_self _), f.contains_asFilter d⟩⟩
  | column id place label =>
    show ∃ text, f.labelled d (.text label) = .ok text ∧ _
    unfold Fragment.labelled
    split
    · exact ⟨_, rfl, f.contains_asColumn d _⟩
    · exact ⟨_, rfl, f.contains_asColumn d label⟩

end Attempt

namespace FragmentPool

variable {d : Dialect} {pool now : FragmentPool} {a : Attempt} {f : Fragment} {id : FragmentId}

/-- Makes an attempt. -/
def perform (d : Dialect) (pool : FragmentPool) (a : Attempt) : Except Fault String × FragmentPool :=
  let (outcome, pool') := pool.embed a.id (a.place?.map Place.ref)
  (outcome.bind (a.write d), pool')

/-- The attempts made, with what each of them came to, and the pool they have left. -/
def run (d : Dialect) (pool : FragmentPool) (attempts : List Attempt) :
    List (Attempt × Except Fault String) × FragmentPool :=
  attempts.foldl (fun (history, now) a => (history ++ [(a, (now.perform d a).1)], (now.perform d a).2)) ([], pool)

/-- The texts that were written with a fragment. -/
def written (history : List (Attempt × Except Fault String)) (id : FragmentId) : List String :=
  history.filterMap fun entry => if entry.1.id = id then entry.2.toOption else none

theorem run_concat (d : Dialect) (pool : FragmentPool) (attempts : List Attempt) (a : Attempt) :
    run d pool (attempts ++ [a]) =
      ((run d pool attempts).1 ++ [(a, ((run d pool attempts).2.perform d a).1)],
        ((run d pool attempts).2.perform d a).2) :=
  List.foldl_concat ..

/-! ## One attempt -/

/-- The attempt finds its fragment fresh, and names no other column than the fragment's. -/
structure Finds (pool : FragmentPool) (a : Attempt) (f : Fragment) : Prop where
  found : pool.get? a.id = some f
  fresh : f.embedded = false
  fits : a.Fits f

/-- All that an attempt can do when it finds its fragment: what is written contains the fragment, and the fragment is
marked. -/
theorem Finds.perform (h : pool.Finds a f) :
    ∃ text, (pool.perform d a).1 = .ok text ∧ Contains text (f.element d) ∧
      ∀ id, (pool.perform d a).2.get? id = if id = a.id then some { f with embedded := true } else pool.get? id := by
  have hcolumn : ∀ c, a.place?.map Place.ref = some c → f.columnRef = .text c := by
    intro c hc
    obtain ⟨place, hplace, rfl⟩ := Option.map_eq_some_iff.mp hc
    exact h.fits place hplace
  have hembed : f.embed (a.place?.map Place.ref) = .ok { f with embedded := true } :=
    Fragment.embed_eq_ok_iff.mpr ⟨h.fresh, hcolumn, rfl⟩
  obtain ⟨text, htext, hcontains⟩ := a.exists_write d { f with embedded := true }
  have hperform : pool.perform d a = (.ok text, ⟨pool.all.setIfInBounds a.id { f with embedded := true }⟩) := by
    simp [FragmentPool.perform, embed, h.found, hembed, Except.bind, htext]
  refine ⟨text, by rw [hperform], hcontains, fun id => ?_⟩
  rw [hperform]
  by_cases hid : id = a.id
  · subst hid
    obtain ⟨hbound, -⟩ := Array.getElem?_eq_some_iff.mp h.found
    simp [get?, hbound]
  · simp [get?, hid, Array.getElem?_setIfInBounds_ne (Ne.symm hid)]

/-- An attempt that does not find its fragment changes nothing. -/
theorem perform_of_not_finds (h : ¬ ∃ f, pool.Finds a f) : ∃ fault, pool.perform d a = (.error fault, pool) := by
  unfold FragmentPool.perform embed
  cases hfound : pool.get? a.id with
  | none => exact ⟨_, rfl⟩
  | some f =>
    cases hembed : f.embed (a.place?.map Place.ref) with
    | error fault => exact ⟨.fragment fault, by simp [hembed, Except.bind]⟩
    | ok placed =>
      obtain ⟨hfresh, hcolumn, -⟩ := Fragment.embed_eq_ok_iff.mp hembed
      exact absurd ⟨f, hfound, hfresh, fun place hplace => hcolumn _ (by rw [hplace]; rfl)⟩ h

theorem perform_isOk_iff : (∃ text, (pool.perform d a).1 = .ok text) ↔ ∃ f, pool.Finds a f := by
  constructor
  · rintro ⟨text, htext⟩
    by_contra hnot
    obtain ⟨fault, hperform⟩ := perform_of_not_finds (d := d) hnot
    rw [hperform] at htext
    cases htext
  · rintro ⟨f, hfinds⟩
    obtain ⟨text, htext, -⟩ := hfinds.perform (d := d)
    exact ⟨text, htext⟩

/-! ## All attempts -/

theorem written_concat (history : List (Attempt × Except Fault String)) (a : Attempt) (outcome : Except Fault String)
    (id : FragmentId) :
    written (history ++ [(a, outcome)]) id =
      written history id ++ (if a.id = id then outcome.toOption else none).toList := by
  unfold written
  rw [List.filterMap_append, List.filterMap_cons, List.filterMap_nil]
  cases (if a.id = id then outcome.toOption else none) <;> rfl

/-- What a run keeps: a fragment is marked once something has been written with it, which happens once at most, and
happens if it was fresh at first and some attempt has named no other column than its own. -/
structure Tracks (pool : FragmentPool) (attempts : List Attempt) (history : List (Attempt × Except Fault String))
    (now : FragmentPool) : Prop where
  marked : ∀ id, now.get? id =
    (pool.get? id).map fun f => { f with embedded := f.embedded || !(written history id).isEmpty }
  once : ∀ id, (written history id).length ≤ 1
  spent : ∀ id, written history id ≠ [] ↔
    ∃ f, pool.get? id = some f ∧ f.embedded = false ∧ ∃ b ∈ attempts, b.id = id ∧ b.Fits f

namespace Tracks

variable {attempts : List Attempt} {history : List (Attempt × Except Fault String)}

theorem refl (pool : FragmentPool) : pool.Tracks [] [] pool where
  marked id := by simp [written]
  once id := by simp [written]
  spent id := by simp [written]

/-- An attempt finds its fragment if it would have found it at first and nothing has been written with it since. -/
theorem finds_iff (h : pool.Tracks attempts history now) :
    now.Finds a f ↔ pool.Finds a f ∧ written history a.id = [] := by
  constructor
  · rintro ⟨hfound, hfresh, hfits⟩
    rw [h.marked] at hfound
    obtain ⟨g, hg, rfl⟩ := Option.map_eq_some_iff.mp hfound
    obtain ⟨hgfresh, hwritten⟩ := Bool.or_eq_false_iff.mp hfresh
    have hnone : written history a.id = [] := by simpa using hwritten
    have hsame : { g with embedded := g.embedded || !(written history a.id).isEmpty } = g := by
      rw [hwritten, Bool.or_false]
    rw [hsame] at hfits ⊢
    exact ⟨⟨hg, hgfresh, hfits⟩, hnone⟩
  · rintro ⟨⟨hfound, hfresh, hfits⟩, hnone⟩
    exact ⟨by rw [h.marked, hfound, hnone]; simp, hfresh, hfits⟩

/-- An attempt that finds its fragment is the first one that anything is written by with it. -/
theorem placed (h : pool.Tracks attempts history now) (hfinds : now.Finds a f) (d : Dialect) :
    pool.Tracks (attempts ++ [a]) (history ++ [(a, (now.perform d a).1)]) (now.perform d a).2 := by
  obtain ⟨hfirst, hnone⟩ := h.finds_iff.mp hfinds
  obtain ⟨text, htext, -, hplaced⟩ := hfinds.perform (d := d)
  have hwritten : ∀ id, written (history ++ [(a, (now.perform d a).1)]) id =
      if a.id = id then [text] else written history id := by
    intro id
    rw [written_concat, htext]
    split
    next hid => rw [← hid, hnone]; rfl
    next => simp
  refine ⟨fun id => ?_, fun id => ?_, fun id => ?_⟩
  · rw [hplaced, hwritten]
    by_cases hid : id = a.id
    · subst hid
      simp [hfirst.found]
    · rw [if_neg hid, if_neg (Ne.symm hid), h.marked]
  · rw [hwritten]
    split
    · exact Nat.le_refl 1
    · exact h.once id
  · rw [hwritten]
    split
    next hid =>
      subst hid
      exact iff_of_true (by simp) ⟨f, hfirst.found, hfirst.fresh, a, by simp, rfl, hfirst.fits⟩
    next hid =>
      -- the new attempt is at another fragment
      rw [h.spent]
      simp [hid]

theorem refused (h : pool.Tracks attempts history now) (hfinds : ¬ ∃ f, now.Finds a f) (d : Dialect) :
    pool.Tracks (attempts ++ [a]) (history ++ [(a, (now.perform d a).1)]) (now.perform d a).2 := by
  obtain ⟨fault, hperform⟩ := perform_of_not_finds (d := d) hfinds
  have hwritten : ∀ id, written (history ++ [(a, (now.perform d a).1)]) id = written history id := by
    intro id
    rw [written_concat, hperform]
    simp [Except.toOption]
  refine ⟨fun id => ?_, fun id => ?_, fun id => ?_⟩
  · rw [hwritten, hperform, h.marked]
  · rw [hwritten]
    exact h.once id
  · rw [hwritten]
    constructor
    · intro hspent
      obtain ⟨f, hfound, hfresh, b, hb, hid, hfits⟩ := (h.spent id).mp hspent
      exact ⟨f, hfound, hfresh, b, List.mem_append_left _ hb, hid, hfits⟩
    · rintro ⟨f, hfound, hfresh, b, hb, rfl, hfits⟩
      rcases List.mem_append.mp hb with hb | hb
      · exact (h.spent b.id).mpr ⟨f, hfound, hfresh, b, hb, rfl, hfits⟩
      · -- it was refused although it names the fragment's column, so the fragment was not fresh any more
        obtain rfl := List.mem_singleton.mp hb
        exact fun hnone => hfinds ⟨f, h.finds_iff.mpr ⟨⟨hfound, hfresh, hfits⟩, hnone⟩⟩

end Tracks

theorem tracks_run (d : Dialect) (pool : FragmentPool) (attempts : List Attempt) :
    pool.Tracks attempts (run d pool attempts).1 (run d pool attempts).2 := by
  induction attempts using List.reverseRecOn with
  | nil => exact .refl pool
  | append_singleton attempts a ih =>
    rw [run_concat]
    by_cases hfinds : ∃ f, (run d pool attempts).2.Finds a f
    · obtain ⟨f, hfinds⟩ := hfinds
      exact ih.placed hfinds d
    · exact ih.refused hfinds d

/-- What an attempt comes to after others on the fragments of a pool. -/
structure PlacesOnce (d : Dialect) (pool : FragmentPool) (before : List Attempt) (a : Attempt) : Prop where
  /-- It succeeds exactly when its fragment is fresh and the column, if one is given, is the fragment's. -/
  succeeds_iff : (∃ text, ((run d pool before).2.perform d a).1 = .ok text) ↔ ∃ f, (run d pool before).2.Finds a f
  /-- That is so when the fragment was fresh at first and this attempt is the first to name no other column. -/
  first_iff : (∃ text, ((run d pool before).2.perform d a).1 = .ok text) ↔
    ∃ f, pool.Finds a f ∧ ∀ b ∈ before, b.id = a.id → ¬ b.Fits f
  /-- An attempt that is refused changes no fragment. -/
  refused : ∀ fault, ((run d pool before).2.perform d a).1 = .error fault →
    ((run d pool before).2.perform d a).2 = (run d pool before).2
  /-- One that succeeds writes the fragment's own text in parentheses, and marks that fragment alone. -/
  placed : ∀ text, ((run d pool before).2.perform d a).1 = .ok text → ∃ f, pool.get? a.id = some f ∧
    Contains text (verbatim d ("(" ++ f.sql.plain ++ ")")) ∧
    ∀ id, ((run d pool before).2.perform d a).2.get? id =
      if id = a.id then some { f with embedded := true } else (run d pool before).2.get? id
  /-- With each fragment something has been written once at most. -/
  once : ∀ id, (written (run d pool before).1 id).length ≤ 1

theorem placesOnce (d : Dialect) (pool : FragmentPool) (before : List Attempt) (a : Attempt) :
    pool.PlacesOnce d before a := by
  have htracks := tracks_run d pool before
  refine ⟨perform_isOk_iff, ?_, ?_, ?_, htracks.once⟩
  · rw [perform_isOk_iff]
    refine exists_congr fun f => ?_
    rw [htracks.finds_iff]
    refine and_congr_right fun hfinds => ?_
    rw [← not_iff_not, ← ne_eq, htracks.spent]
    constructor
    · rintro ⟨g, hg, -, b, hb, hid, hfits⟩ hnever
      obtain rfl : f = g := Option.some.inj (hfinds.found.symm.trans hg)
      exact hnever b hb hid hfits
    · intro hever
      simp only [not_forall, not_not] at hever
      obtain ⟨b, hb, hid, hfits⟩ := hever
      exact ⟨f, hfinds.found, hfinds.fresh, b, hb, hid, hfits⟩
  · intro fault hfault
    have hnot : ¬ ∃ f, (run d pool before).2.Finds a f := by
      rw [← perform_isOk_iff (d := d), hfault]
      simp
    obtain ⟨fault', hperform⟩ := perform_of_not_finds (d := d) hnot
    rw [hperform]
  · intro text htext
    obtain ⟨f, hfinds⟩ := perform_isOk_iff.mp ⟨text, htext⟩
    obtain ⟨text', htext', hcontains, hplaced⟩ := hfinds.perform (d := d)
    obtain rfl := Except.ok.inj (htext.symm.trans htext')
    exact ⟨f, (htracks.finds_iff.mp hfinds).1.found, hcontains, hplaced⟩

end FragmentPool

end RowGuard
