import RowGuard.Proofs.Evaluator.Supplying
import RowGuard.Proofs.Fragment.Placing
import RowGuard.Proofs.Listing.Agreement

/-!
# The fragments of a listing

A listing that could be planned has used one fragment of its own for reading and one for each further permission, and
has touched no other (`Listing.TakesFragments`). Since every fragment is placed once at most, none of them is left for
another statement (`Listing.fragments_used_once`).
-/

namespace RowGuard

open FragmentPool

namespace Evaluator

/-- A fragment that was supplied is the last one. -/
theorem Supplies.exists_added {e : Evaluator} (he : e.Supplies) {s : Subject} {action type columnRef : Data}
    {id : FragmentId} {sys sys' : System} (h : e.compile s action type columnRef sys = (.ok id, sys')) :
    id = sys.fragments.all.size ∧
      ∃ f, f.FreshFor action type columnRef ∧ sys'.fragments.all = sys.fragments.all.push f := by
  have hsupplied := he s action type columnRef sys
  rw [h] at hsupplied
  cases hsupplied with
  | supplied f fresh added => exact ⟨rfl, f, fresh, added⟩

end Evaluator

namespace Listing

variable {e : Evaluator} {s : Subject} {type permission : Data} {m : Mapping} {sys sys' : System} {r : Request}
  {p : Plan}

/-- The fragment has been placed, and is for the action on the resources of the type. -/
structure PlacedFor (type : Data) (m : Mapping) (action : Data) (f : Fragment) : Prop where
  embedded : f.embedded = true
  action : f.action = action
  type : f.resourceType = type
  columnRef : f.columnRef = .text m.columnRef

theorem placedFor_of_embed {f placed : Fragment} {column : Option String}
    (hf : f.FreshFor permission type (.text m.columnRef)) (h : f.embed column = .ok placed) :
    PlacedFor type m permission placed := by
  obtain ⟨-, -, rfl⟩ := Fragment.embed_eq_ok_iff.mp h
  exact ⟨rfl, hf.action, hf.type, hf.columnRef⟩

/-- A further permission takes one more fragment. -/
theorem planExtra_eq_ok {extra : Data × Fragment} (he : e.Supplies)
    (h : planExtra e s type m permission sys = (.ok extra, sys')) :
    extra.1 = permission ∧ PlacedFor type m permission extra.2 ∧
      sys'.fragments.all = sys.fragments.all.push extra.2 := by
  obtain ⟨id, sys₁, hcompile, hname, hembed⟩ := exists_of_planExtra h
  obtain ⟨rfl, f, hfresh, hadded⟩ := he.exists_added hcompile
  obtain ⟨g, hget, hplaced, rfl⟩ := Sys.embedFragment_eq_ok hembed
  obtain rfl : f = g := Option.some.inj ((Batch.get?_of_push hadded).symm.trans hget)
  refine ⟨hname, placedFor_of_embed hfresh hplaced, ?_⟩
  rw [System.withFragment, hadded, ← Array.toList_inj]
  simp [Array.toList_setIfInBounds, List.set_append_right]

theorem planExtras_eq_ok {permissions : List Data} {extras : List (Data × Fragment)} (he : e.Supplies)
    (h : permissions.mapM (planExtra e s type m) sys = (.ok extras, sys')) :
    List.Forall₂ (fun permission extra => extra.1 = permission ∧ PlacedFor type m permission extra.2)
        permissions extras ∧
      sys'.fragments.all.toList = sys.fragments.all.toList ++ extras.map (·.2) := by
  induction permissions generalizing sys extras with
  | nil =>
    rw [List.mapM_nil] at h
    obtain ⟨rfl, rfl⟩ := Sys.of_pure_eq_ok h
    exact ⟨.nil, by simp⟩
  | cons permission rest ih =>
    obtain ⟨extra, sys₁, others, hfirst, hrest, rfl⟩ := Sys.mapM_cons_eq_ok h
    obtain ⟨hname, hplaced, hadded⟩ := planExtra_eq_ok he hfirst
    obtain ⟨hothers, hlast⟩ := ih hrest
    refine ⟨.cons ⟨hname, hplaced⟩ hothers, ?_⟩
    rw [hlast, hadded]
    simp

/-- What planning a listing does to the fragments. -/
structure TakesFragments (r : Request) (m : Mapping) (p : Plan) (sys sys' : System) : Prop where
  /-- The fragments of the plan are new, and the others are as they were. -/
  added : sys'.fragments.all.toList = sys.fragments.all.toList ++ p.fragments
  /-- There is one for reading and then one for each further permission in the order asked for, and all are placed. -/
  placed : List.Forall₂ (PlacedFor r.type m) (.text readPermission :: r.extras) p.fragments
  /-- Each permission is read off its own fragment. -/
  columns : p.extras.map (·.1) = r.extras

theorem takesFragments_of_plan (he : e.Supplies) (h : plan e s r sys = (.ok p, sys')) :
    ∃ m, sys.globals.registry.lookup r.type = .ok m ∧ TakesFragments r m p sys sys' := by
  obtain ⟨m, id, sys₁, sys₂, hlookup, hcompile, hextras, hread⟩ := exists_of_plan h
  obtain ⟨rfl, f, hfresh, hadded⟩ := he.exists_added hcompile
  obtain ⟨hplaced, hlast⟩ := planExtras_eq_ok he hextras
  obtain ⟨g, hget, hembed, rfl⟩ := Sys.embedFragment_eq_ok hread
  -- the fragment for reading stands before those of the further permissions, where it was compiled
  have hall : sys₂.fragments.all.toList = sys.fragments.all.toList ++ f :: p.extras.map (·.2) := by
    rw [hlast, hadded, Array.toList_push, List.append_assoc, List.singleton_append]
  obtain rfl : f = g := by
    rw [FragmentPool.get?, ← Array.getElem?_toList, hall] at hget
    simpa using hget
  refine ⟨m, hlookup, ?_, ?_, ?_⟩
  · show (sys₂.fragments.all.setIfInBounds sys.fragments.all.size p.read).toList = _
    rw [Array.toList_setIfInBounds, hall, ← Array.length_toList, List.set_append_right _ _ (Nat.le_refl _)]
    simp [Plan.fragments]
  · refine .cons (placedFor_of_embed hfresh hembed) ?_
    rw [List.forall₂_map_right_iff]
    exact hplaced.imp fun _ _ h => h.2
  · rw [← List.forall₂_eq_eq_eq, List.forall₂_map_left_iff]
    exact hplaced.flip.imp fun _ _ h => h.1

/-- The fragments of a listing are used up. -/
theorem TakesFragments.refused (h : TakesFragments r m p sys sys') (d : Dialect) {a : Attempt}
    (hnew : sys.fragments.all.size ≤ a.id) : ∃ fault, sys'.fragments.perform d a = (.error fault, sys'.fragments) := by
  have hembedded : ∀ f ∈ p.fragments, f.embedded = true :=
    ((List.forall₂_and_left _ _).mp (h.placed.flip.imp fun _ _ hf => ⟨hf.embedded, hf⟩)).1
  refine perform_of_not_finds ?_
  rintro ⟨f, hfound, hfresh, -⟩
  rw [FragmentPool.get?, ← Array.getElem?_toList, h.added, List.getElem?_append_right (by simpa using hnew)] at hfound
  rw [hembedded f (List.mem_of_getElem? hfound)] at hfresh
  cases hfresh

/-- Fragments are used once. Whatever attempts are made at the fragments of a pool, each comes to what
`FragmentPool.PlacesOnce` says; and a listing that could be planned has taken one new fragment for reading and one for
each further permission, in this order, and none of them can be used again. -/
theorem fragments_used_once (he : e.Supplies) (h : plan e s r sys = (.ok p, sys')) :
    (∀ d pool before a, PlacesOnce d pool before a) ∧
      ∃ m, sys.globals.registry.lookup r.type = .ok m ∧ TakesFragments r m p sys sys' ∧
        ∀ d (a : Attempt), sys.fragments.all.size ≤ a.id →
          ∃ fault, sys'.fragments.perform d a = (.error fault, sys'.fragments) := by
  obtain ⟨m, hlookup, htakes⟩ := takesFragments_of_plan he h
  exact ⟨placesOnce, m, hlookup, htakes, fun d a hnew => htakes.refused d hnew⟩

end Listing

namespace Shelf

open Listing

/-- The documents that may be read, each with whether the role of a reader is held. -/
def documentsWithRole : Request := { type := .text "Doc", extras := [.text "reader"] }

/-- A fragment for documents that nothing has been done with. -/
def freshPool : FragmentPool := ⟨#[.ofText (.text "docs.id") (.text "docs.id = 'd'") (.text "read") (.text "Doc")]⟩

/-- The fragment among the conditions for the titles, which it was not compiled for. -/
def misplaced : Attempt := .filter 0 ⟨some "docs", "title"⟩ []

/-- The fragment as a column. -/
def asColumn : Attempt := .column 0 ⟨some "docs", "id"⟩ "may_read"

theorem fragments_used_once_documents :
    (evaluator .text).toEvaluator.Supplies ∧
      (∃ p sys', plan (evaluator .text).toEvaluator reader documentsWithRole system = (.ok p, sys') ∧
        sys'.fragments.all.toList = p.fragments ∧
        List.Forall₂ (PlacedFor (.text "Doc") mapping) [.text "read", .text "reader"] p.fragments ∧
        ∃ fault, sys'.fragments.perform .sqlite (.element 1 none) = (.error fault, sys'.fragments)) ∧
      (∃ text, ((run .sqlite freshPool [misplaced]).2.perform .sqlite asColumn).1 = .ok text) ∧
      ¬ ∃ text, ((run .sqlite freshPool [misplaced, asColumn]).2.perform .sqlite (.element 0 none)).1 = .ok text := by
  obtain ⟨p, hp⟩ := Outcome.exists_of_isOk
    (x := (plan (evaluator .text).toEvaluator reader documentsWithRole system).1) (by decide +kernel)
  obtain ⟨sys', hplan⟩ : ∃ sys', plan (evaluator .text).toEvaluator reader documentsWithRole system = (.ok p, sys') :=
    ⟨_, Prod.ext hp rfl⟩
  obtain ⟨hplaces, m, hlookup, htakes, hused⟩ := fragments_used_once (evaluator .text).supplies hplan
  obtain rfl : mapping = m := Except.ok.inj (lookup_doc.symm.trans hlookup)
  refine ⟨(evaluator .text).supplies,
    ⟨p, sys', hplan, htakes.added, htakes.placed, hused .sqlite _ (by decide)⟩, ?_, ?_⟩
  · refine (hplaces .sqlite freshPool [misplaced] asColumn).first_iff.mpr ⟨_, ⟨rfl, rfl, ?_⟩, ?_⟩
    · rintro place hplace
      obtain rfl := Option.some.inj hplace
      decide
    · -- the first attempt names another column
      intro b hb _ hfits
      obtain rfl := List.mem_singleton.mp hb
      exact absurd (hfits ⟨some "docs", "title"⟩ rfl) (by decide)
  · rw [(hplaces .sqlite freshPool [misplaced, asColumn] (.element 0 none)).first_iff]
    rintro ⟨f, ⟨hfound, -, -⟩, hnever⟩
    obtain rfl := Option.some.inj hfound
    refine hnever asColumn (by simp) rfl ?_
    rintro place hplace
    obtain rfl := Option.some.inj hplace
    decide

end Shelf

end RowGuard
