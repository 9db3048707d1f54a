import RowGuard.Fragment.Meaning
import RowGuard.Proofs.Access.Rearrangement
import RowGuard.Proofs.Evaluator.Checks

/-!
# Subjects of another type

A policy is about actors of one type. Where a condition names its subject, for a role or a global role, a subject of
another type is refused; a clause for an attribute names no subject, and is there for everybody. So what such a
subject is given depends on the goals that compiling comes to: on those that ask for the subject and those that ask
for an attribute.

* `Policy.Meeting`: the goals that compiling comes by, each with the path it is met on.
* `Policy.exists_meeting`: up to their keys, all goals that calls lead to are met and followed.
* `LocalEvaluator.Withholds`: the action gives the subject nothing.
* `LocalEvaluator.stranger_given`: what a subject of another type is given, from what goals ask for.
-/

namespace RowGuard

open Outcome Policy

namespace Outcome

variable {α β : Type}

/-- The computation gives a value, or says what is missing or wrong in the policy. -/
def IsAnswered (x : Except Fault α) : Prop := (∃ a, x = .ok a) ∨ ∃ f, x = .error (.policy f)

theorem IsAnswered.of_ok (a : α) : IsAnswered (.ok a) := .inl ⟨a, rfl⟩

theorem IsAnswered.refused (f : PolicyFault) : IsAnswered (.error (.policy f) : Except Fault α) := .inr ⟨f, rfl⟩

theorem IsAnswered.bind {x : Except Fault α} {f : α → Except Fault β} (hx : IsAnswered x)
    (hf : ∀ a, x = .ok a → IsAnswered (f a)) : IsAnswered (x >>= f) := by
  rcases hx with ⟨a, rfl⟩ | ⟨fault, rfl⟩
  · exact hf a rfl
  · exact .refused fault

theorem isAnswered_mapM {f : α → Except Fault β} {l : List α} (h : ∀ a ∈ l, IsAnswered (f a)) :
    IsAnswered (l.mapM f) := by
  induction l with
  | nil => exact .of_ok []
  | cons a rest ih =>
    rw [List.mapM_cons]
    refine (h a List.mem_cons_self).bind fun b _ => ?_
    refine (ih fun a' ha' => h a' (List.mem_cons_of_mem _ ha')).bind fun bs _ => ?_
    exact .of_ok (b :: bs)

end Outcome

/-! ## What facts are asked for -/

namespace FactBook

variable {facts : FactBook} {actor : Data}

theorem isAnswered_found {names : List Data} (absent : PolicyFault) (query : Option FactQuery)
    (h : names.all Data.isKey = true) : IsAnswered (found names absent query) := by
  cases query with
  | none => exact .inr ⟨absent, by simp [found, h]⟩
  | some q => exact .inl ⟨q, found_of_keys absent h⟩

theorem isAnswered_role (hsized : facts.Sized) (hactor : actor.isKey = true) (type : String) :
    IsAnswered (facts.role actor (.text type)) := by
  refine (isAnswered_found _ _ rfl).bind fun q hq => ?_
  obtain ⟨_, hmem⟩ := lookup_mem (exists_of_found hq)
  rw [requireKey_of_isKey hactor, ok_bind]
  exact .inl ⟨_, checked_of_sized _ (hsized.roles _ hmem)⟩

theorem isAnswered_globalRole (hsized : facts.Sized) (hactor : actor.isKey = true) :
    IsAnswered (facts.globalRole actor) := by
  refine (isAnswered_found _ _ rfl).bind fun q hq => ?_
  rw [requireKey_of_isKey hactor, ok_bind]
  exact .inl ⟨_, checked_of_sized _ (hsized.globalRoles q (exists_of_found hq))⟩

theorem isAnswered_relation (hsized : facts.Sized) (type relation other : String) :
    IsAnswered (facts.relation (.text type) (.text relation) (.text other)) := by
  refine (isAnswered_found _ _ rfl).bind fun q hq => ?_
  obtain ⟨_, hmem⟩ := lookup_mem (exists_of_found hq)
  exact .inl ⟨_, checked_of_sized _ (hsized.relations _ hmem)⟩

theorem isAnswered_attr (hsized : facts.Sized) (attr type : String) :
    IsAnswered (facts.attr (.text attr) (.text type)) := by
  refine (isAnswered_found _ _ rfl).bind fun q hq => ?_
  obtain ⟨_, hmem⟩ := lookup_mem (exists_of_found hq)
  exact .inl ⟨_, checked_of_sized _ (hsized.attributes _ hmem)⟩

end FactBook

/-- A condition whose ways name nobody names nobody. -/
theorem Condition.literalsOfAll_ofWays {ways : List Way} (h : ∀ w ∈ ways, w.clause.literals = []) :
    Clause.literalsOfAll (Condition.ofWays ways) = [] := by
  refine List.eq_nil_iff_forall_not_mem.mpr ?_
  intro l hl
  obtain ⟨clause, hclause, hl⟩ := Clause.mem_literalsOfAll.mp hl
  obtain ⟨w, hw, rfl⟩ := List.mem_map.mp hclause
  rw [h w hw] at hl
  cases hl

namespace Policy

variable {p : Policy} {facts : FactBook} {s : Subject}

/-! ## Compiling is answered -/

section Answered

variable (hsized : facts.Sized) (hkey : p.actorType.isKey = true)

theorem isAnswered_subjectLiteral : IsAnswered (p.subjectLiteral facts s) := by
  unfold subjectLiteral
  split
  case isTrue => exact .of_ok _
  case isFalse => exact .refused _

include hsized hkey

theorem isAnswered_globalWays (roles : List String) : IsAnswered (p.globalWays facts s roles) := by
  unfold globalWays globalWay
  split
  case isTrue => exact .of_ok []
  case isFalse =>
    rw [Name.textsInOrder_string, ok_bind]
    refine IsAnswered.bind ?_ fun way _ => .of_ok [way]
    refine (FactBook.isAnswered_globalRole hsized hkey).bind fun fact _ => ?_
    exact isAnswered_subjectLiteral.bind fun subject _ => .of_ok _

theorem isAnswered_localWays (type : String) (roles : List String) :
    IsAnswered (p.localWays facts s type roles) := by
  unfold localWays
  split
  case isTrue => exact .of_ok []
  case isFalse =>
    split
    case isTrue => exact isAnswered_globalWays hsized hkey roles
    case isFalse =>
      rw [Name.textsInOrder_string, ok_bind]
      refine (FactBook.isAnswered_role hsized hkey type).bind fun fact _ => ?_
      exact isAnswered_subjectLiteral.bind fun subject _ => .of_ok _

omit hkey in
theorem isAnswered_attributeWays (type : String) (attributes : List String) :
    IsAnswered (attributes.mapM (attributeWay facts type)) :=
  isAnswered_mapM fun a _ => (FactBook.isAnswered_attr hsized a type).bind fun _ _ => .of_ok _

/-- With queries of the right sizes compiling gives ways, or says what is missing or wrong in the policy. -/
theorem isAnswered_waysTo {start goal : Goal} {path : List Goal} (hgoal : goal ∈ p.goals start) :
    IsAnswered (p.waysTo facts s start path goal hgoal) := by
  -- as the recursion goes: by the number of goals that are not on the path
  induction hsize : (p.unvisited start path).length using Nat.strongRecOn generalizing path goal with
  | ind size ih =>
    cases hpath : path.any goal.same with
    | true => rw [waysTo_of_visited hpath]; exact .of_ok []
    | false =>
      cases hb : p.block? goal.type with
      | none => rw [waysTo_of_undeclared hpath hb]; exact .refused _
      | some b =>
        obtain ⟨along, hnone, hsome, hways⟩ := exists_waysTo_eq facts s hgoal hpath hb
        have hsmaller : (p.unvisited start (goal :: path)).length < size :=
          hsize ▸ length_unvisited_lt hgoal hpath
        have halong : ∀ r, IsAnswered (along r) := by
          intro r
          cases hother : b.related? r.1 with
          | none => rw [hnone r hother]; exact .refused _
          | some other =>
            obtain ⟨hnext, hadds⟩ := hsome r other hother
            rw [hadds]
            refine (FactBook.isAnswered_relation hsized goal.type r.1 other).bind fun fact _ => ?_
            refine (ih _ hsmaller hnext rfl).bind fun inner _ => ?_
            obtain ⟨_, hrelated⟩ := exists_relatedWays r.2 r.1 fact inner
            exact .inl ⟨_, hrelated⟩
        rw [hways]
        refine (isAnswered_localWays hsized hkey _ _).bind fun locals _ => ?_
        refine (isAnswered_globalWays hsized hkey _).bind fun globals _ => ?_
        obtain ⟨rels, hrels, _⟩ := exists_relatedInOrder b goal.grants
        rw [hrels, ok_bind]
        refine (isAnswered_mapM fun r _ => halong r).bind fun related _ => ?_
        rw [Name.inOrder_string, ok_bind]
        exact (isAnswered_attributeWays hsized _ _).bind fun attributeWays _ => .of_ok _

end Answered

/-! ## What goals ask for -/

/-- Compiling the goal asks for the subject: for one of its roles on the resource, or for a global role. -/
inductive AsksForSubject (p : Policy) (goal : Goal) : Prop
  | role {n b} : p.block? goal.type = some b → b.Reaches goal.grants n → n ∈ b.roles → AsksForSubject p goal
  | globalRole {n g b} : p.block? goal.type = some b → b.Reaches goal.grants n →
      ⟨n, .globalRole g⟩ ∈ b.rules → AsksForSubject p goal

/-- Compiling the goal asks for an attribute of the resource. -/
inductive AsksForAttribute (p : Policy) (goal : Goal) : Prop
  | intro {n a b} : p.block? goal.type = some b → b.Reaches goal.grants n →
      ⟨n, .hasAttribute a⟩ ∈ b.rules → AsksForAttribute p goal

/-- From the first goal calls lead to one that asks in this way. -/
def ComesToAsk (p : Policy) (asks : Goal → Prop) (start : Goal) : Prop :=
  ∃ goal, Relation.ReflTransGen p.Calls start goal ∧ asks goal

/-- The goals that compiling comes by from the first one on, each with the path it is met on. One that is on its path
is not followed. -/
inductive Meeting (p : Policy) (start : Goal) : (path : List Goal) → (goal : Goal) → Prop
  | start : Meeting p start [] start
  | call {path goal next} : Meeting p start path goal → path.any goal.same = false → p.Calls goal next →
      Meeting p start (goal :: path) next

variable {start goal goal' next : Goal} {path : List Goal} {hgoal : goal ∈ p.goals start} {ways : List Way}

theorem reaches_congr {b : Block} {n : String} (h : goal.key = goal'.key) :
    b.Reaches goal.grants n ↔ b.Reaches goal'.grants n :=
  Reached.congr_grants (mem_grants_iff_of_key h)

theorem AsksForSubject.congr (hkey : goal.key = goal'.key) (h : p.AsksForSubject goal) :
    p.AsksForSubject goal' := by
  cases h with
  | role hb hn hrole => exact .role (type_eq_of_key hkey ▸ hb) ((reaches_congr hkey).mp hn) hrole
  | globalRole hb hn hr => exact .globalRole (type_eq_of_key hkey ▸ hb) ((reaches_congr hkey).mp hn) hr

theorem AsksForAttribute.congr (hkey : goal.key = goal'.key) (h : p.AsksForAttribute goal) :
    p.AsksForAttribute goal' := by
  cases h with
  | intro hb hn hr => exact .intro (type_eq_of_key hkey ▸ hb) ((reaches_congr hkey).mp hn) hr

/-- The same goals call for the same goals. -/
theorem Calls.congr (hkey : goal.key = goal'.key) (h : p.Calls goal next) :
    ∃ next', p.Calls goal' next' ∧ next.key = next'.key := by
  cases h with
  | @along n m relation other b hb hn hr hother =>
    refine ⟨_, .along (type_eq_of_key hkey ▸ hb) ((reaches_congr hkey).mp hn) hr hother, ?_⟩
    refine Goal.same_iff_key.mp (Goal.same_iff.mpr ⟨rfl, ?_⟩)
    intro m
    simp only [mem_goalAlong (mem_of_block? hb), reaches_congr hkey]

/-! ## One goal -/

section Stranger

variable (hstranger : p.isActor s = false)

include hstranger

theorem globalWays_of_stranger {roles : List String} (h : p.globalWays facts s roles = .ok ways) :
    roles = [] ∧ ways = [] := by
  unfold globalWays globalWay at h
  split at h
  case isTrue hroles => exact ⟨List.isEmpty_iff.mp hroles, (Except.ok.inj h).symm⟩
  case isFalse =>
    rw [Name.textsInOrder_string, ok_bind] at h
    obtain ⟨_, h, _⟩ := bind_eq_ok_iff.mp h
    obtain ⟨_, _, h⟩ := bind_eq_ok_iff.mp h
    obtain ⟨_, hsubject, _⟩ := bind_eq_ok_iff.mp h
    rw [(subjectLiteral_eq_ok_iff.mp hsubject).1] at hstranger
    cases hstranger

theorem localWays_of_stranger {type : String} {roles : List String}
    (h : p.localWays facts s type roles = .ok ways) : roles = [] ∧ ways = [] := by
  unfold localWays at h
  split at h
  case isTrue hroles => exact ⟨List.isEmpty_iff.mp hroles, (Except.ok.inj h).symm⟩
  case isFalse =>
    split at h
    case isTrue => exact globalWays_of_stranger hstranger h
    case isFalse =>
      rw [Name.textsInOrder_string, ok_bind] at h
      obtain ⟨_, _, h⟩ := bind_eq_ok_iff.mp h
      obtain ⟨_, hsubject, _⟩ := bind_eq_ok_iff.mp h
      rw [(subjectLiteral_eq_ok_iff.mp hsubject).1] at hstranger
      cases hstranger

/-- A goal that is compiled for a stranger does not ask for the subject. -/
theorem not_asksForSubject (hpath : path.any goal.same = false)
    (h : p.waysTo facts s start path goal hgoal = .ok ways) : ¬ p.AsksForSubject goal := by
  intro hasks
  have hroles : ∀ b, p.block? goal.type = some b →
      (b.derive goal.grants).localRoles = [] ∧ (b.derive goal.grants).globalRoles = [] := by
    intro b hb
    obtain ⟨_, _, _, _, _, _, hlocals, hglobals, _⟩ := (waysTo_eq_ok_iff hpath hb).mp h
    exact ⟨(localWays_of_stranger hstranger hlocals).1, (globalWays_of_stranger hstranger hglobals).1⟩
  cases hasks with
  | @role n b hb hn hrole =>
    have hmem := (b.mem_derive_localRoles goal.grants).mpr ⟨hrole, hn⟩
    simp [(hroles b hb).1] at hmem
  | @globalRole n g b hb hn hr =>
    have hmem := (b.mem_derive_globalRoles goal.grants).mpr ⟨n, hn, hr⟩
    simp [(hroles b hb).2] at hmem

end Stranger

/-- A goal that asks for an attribute has a way. -/
theorem ne_nil_of_asksForAttribute (hpath : path.any goal.same = false)
    (h : p.waysTo facts s start path goal hgoal = .ok ways) (hasks : p.AsksForAttribute goal) : ways ≠ [] := by
  cases hasks with
  | @intro n a b hb hn hr =>
    obtain ⟨_, _, _, _, attributes, attributeWays, _, _, _, _, hattributes, hways, rfl⟩ :=
      (waysTo_eq_ok_iff hpath hb).mp h
    have ha : a ∈ attributes :=
      (Name.mem_inOrder_iff hattributes).mpr ((b.mem_derive_attributes goal.grants).mpr ⟨n, hn, hr⟩)
    obtain ⟨w, hw, _⟩ := exists_of_mem_right (mapM_eq_ok_iff.mp hways).flip ha
    exact List.ne_nil_of_mem (List.mem_append_right _ hw)

/-- A goal that is called for has been compiled, and its ways make one for the goal that calls. -/
theorem exists_inner (hpath : path.any goal.same = false)
    (h : p.waysTo facts s start path goal hgoal = .ok ways) (hcall : p.Calls goal next) :
    ∃ hnext inner, p.waysTo facts s start (goal :: path) next hnext = .ok inner ∧ (inner ≠ [] → ways ≠ []) := by
  cases hcall with
  | @along n m relation other b hb hn hr hother =>
    obtain ⟨_, _, rels, related, _, _, _, _, hrels, hrelated, _, _, rfl⟩ := (waysTo_eq_ok_iff hpath hb).mp h
    have hrel : (relation, b.requiredOn goal.grants relation) ∈ rels :=
      (mem_relatedInOrder_iff hrels).mpr ⟨(b.mem_derive_related goal.grants).mpr ⟨n, m, hn, hr⟩, rfl⟩
    obtain ⟨ws, hws, other', fact, inner, hnext, hother', _, hinner, hadds⟩ := exists_of_mem_right hrelated.flip hrel
    obtain rfl : other = other' := Option.some.inj (hother.symm.trans hother')
    refine ⟨hnext, inner, hinner, ?_⟩
    intro hne
    obtain ⟨label, rfl⟩ := relatedWays_eq_ok hadds
    rw [if_neg (by simpa using hne)] at hws
    exact List.ne_nil_of_mem (List.mem_append_left _ (List.mem_append_right _
      (List.mem_flatten.mpr ⟨_, hws, List.mem_cons_self⟩)))

/-! ## All goals -/

/-- Up to its key, every goal that calls lead to is met where it is followed. -/
theorem exists_meeting (h : Relation.ReflTransGen p.Calls start goal) :
    ∃ path goal', p.Meeting start path goal' ∧ path.any goal'.same = false ∧ goal.key = goal'.key := by
  -- the path consists of goals that were followed when they were met
  have hpast : ∀ {path g}, p.Meeting start path g → ∀ g' ∈ path, ∃ path', p.Meeting start path' g' ∧
      path'.any g'.same = false := by
    intro path g hmeeting
    induction hmeeting with
    | start => simp
    | call hgoal hpath _ ih =>
      intro g' hg'
      rcases List.mem_cons.mp hg' with rfl | hg'
      · exact ⟨_, hgoal, hpath⟩
      · exact ih g' hg'
  induction h with
  | refl => exact ⟨[], start, .start, rfl, rfl⟩
  | tail _ hcall ih =>
    obtain ⟨path, goal', hgoal', hpath, hkey⟩ := ih
    obtain ⟨next', hcall', hnext⟩ := hcall.congr hkey
    have hmet : p.Meeting start (goal' :: path) next' := .call hgoal' hpath hcall'
    cases hfresh : (goal' :: path).any next'.same with
    | false => exact ⟨_, next', hmet, hfresh, hnext⟩
    | true =>
      obtain ⟨g, hg, hsame⟩ := List.any_eq_true.mp hfresh
      obtain ⟨path', hg', hpath'⟩ := hpast hmet g hg
      exact ⟨path', g, hg', hpath', hnext.trans (Goal.same_iff_key.mp hsame)⟩

/-- What is compiled for the first goal has been compiled for every goal met. -/
theorem exists_ways_of_meeting {hstart : start ∈ p.goals start}
    (h : p.waysTo facts s start [] start hstart = .ok ways) (hmeeting : p.Meeting start path goal) :
    ∃ hgoal met, p.waysTo facts s start path goal hgoal = .ok met ∧ (met ≠ [] → ways ≠ []) := by
  induction hmeeting with
  | start => exact ⟨hstart, ways, h, id⟩
  | call _ hpath hcall ih =>
    obtain ⟨hgoal, met, hmet, hne⟩ := ih
    obtain ⟨hnext, inner, hinner, hgives⟩ := exists_inner hpath hmet hcall
    exact ⟨hnext, inner, hinner, fun hinner' => hne (hgives hinner')⟩

/-- What is compiled has a way if a goal it comes to asks for an attribute. -/
theorem ne_nil_of_comesToAsk {hstart : start ∈ p.goals start}
    (h : p.waysTo facts s start [] start hstart = .ok ways) (hasks : p.ComesToAsk p.AsksForAttribute start) :
    ways ≠ [] := by
  obtain ⟨goal, hreach, hgoal⟩ := hasks
  obtain ⟨path, goal', hmeeting, hpath, hkey⟩ := exists_meeting hreach
  obtain ⟨_, met, hmet, hgives⟩ := exists_ways_of_meeting h hmeeting
  exact hgives (ne_nil_of_asksForAttribute hpath hmet (hgoal.congr hkey))

section Stranger

variable (hstranger : p.isActor s = false)

include hstranger

/-- What is compiled for a stranger comes to no goal that asks for the subject. -/
theorem not_comesToAsk_of_stranger {hstart : start ∈ p.goals start}
    (h : p.waysTo facts s start [] start hstart = .ok ways) : ¬ p.ComesToAsk p.AsksForSubject start := by
  rintro ⟨goal, hreach, hgoal⟩
  obtain ⟨path, goal', hmeeting, hpath, hkey⟩ := exists_meeting hreach
  obtain ⟨_, met, hmet, _⟩ := exists_ways_of_meeting h hmeeting
  exact not_asksForSubject hstranger hpath hmet (hgoal.congr hkey)

/-- A way that is compiled for a stranger names no subject, and comes of a goal that asks for an attribute. -/
theorem way_of_stranger (h : p.waysTo facts s start path goal hgoal = .ok ways) :
    ∀ w ∈ ways, w.clause.literals = [] ∧ p.ComesToAsk p.AsksForAttribute goal := by
  refine waysTo_induction (motive := fun _ goal ways =>
    ∀ w ∈ ways, w.clause.literals = [] ∧ p.ComesToAsk p.AsksForAttribute goal) ?_ ?_ h
  · simp
  · intro path goal _ ways b hpath hb h ih w hw
    obtain ⟨locals, globals, rels, related, attributes, attributeWays, hlocals, hglobals, hrels, hrelated,
      hattributes, hways, rfl⟩ := (waysTo_eq_ok_iff hpath hb).mp h
    obtain rfl := (localWays_of_stranger hstranger hlocals).2
    obtain rfl := (globalWays_of_stranger hstranger hglobals).2
    rw [List.append_nil, List.nil_append, List.mem_append] at hw
    rcases hw with hw | hw
    · obtain ⟨ws, hws, hw⟩ := List.mem_flatten.mp hw
      obtain ⟨⟨relation, roles⟩, hr, other, fact, inner, hnext, hother, _, hinner, hadds⟩ :=
        exists_of_mem_right hrelated hws
      obtain ⟨hrelation, rfl⟩ : relation ∈ (b.derive goal.grants).related.map (·.1) ∧
        roles = b.requiredOn goal.grants relation := (mem_relatedInOrder_iff hrels).mp hr
      obtain ⟨n, m, hn, hrule⟩ := (b.mem_derive_related goal.grants).mp hrelation
      obtain ⟨label, rfl⟩ := relatedWays_eq_ok hadds
      split at hw
      case isTrue => cases hw
      case isFalse hne =>
        obtain rfl := List.mem_singleton.mp hw
        obtain ⟨w', hw'⟩ := List.exists_mem_of_ne_nil inner (by simpa using hne)
        obtain ⟨_, goal', hreach, hasks⟩ := ih hinner w' hw'
        refine ⟨?_, goal', .head (.along hb hn hrule hother) hreach, hasks⟩
        exact Condition.literalsOfAll_ofWays fun w₁ hw₁ => (ih hinner w₁ hw₁).1
    · obtain ⟨a, ha, hway⟩ := (mem_of_mapM_eq_ok hways w).mp hw
      obtain ⟨fact, _, hway⟩ := bind_eq_ok_iff.mp hway
      obtain rfl := Except.ok.inj hway
      obtain ⟨n, hn, hrule⟩ :=
        (b.mem_derive_attributes goal.grants).mp ((Name.mem_inOrder_iff hattributes).mp ha)
      exact ⟨rfl, goal, .refl, .intro hb hn hrule⟩

end Stranger

end Policy

/-! ## What a stranger is given -/

namespace LocalEvaluator

variable {e : LocalEvaluator} {s : Subject} {type action : String} {sys : System}

/-- What a declared action is compiled to for a stranger. -/
theorem condition_of_stranger (hkey : e.policy.actorType.isKey = true) (hsized : e.facts.Sized)
    (hstranger : e.policy.isActor s = false) (hdeclared : e.policy.declares type action = true) (config : Config) :
    (∃ f, e.condition config s (.text action) (.text type) = .error (.policy f)) ∨
      ∃ c, e.condition config s (.text action) (.text type) = .ok c ∧ Clause.literalsOfAll c = [] ∧
        ¬ e.policy.ComesToAsk e.policy.AsksForSubject ⟨type, [action]⟩ ∧
        (c ≠ [] ↔ e.policy.ComesToAsk e.policy.AsksForAttribute ⟨type, [action]⟩) := by
  have hways : e.policy.ways e.facts s type [action] =
      e.policy.waysTo e.facts s ⟨type, [action]⟩ [] ⟨type, [action]⟩ (start_mem_goals e.policy _) := by
    rw [Policy.ways, Name.requireKeys_string, ok_bind]
    rfl
  have hanswered : IsAnswered (e.policy.waysTo e.facts s ⟨type, [action]⟩ [] ⟨type, [action]⟩
      (start_mem_goals e.policy _)) := Policy.isAnswered_waysTo hsized hkey _
  rw [condition_of_declares hdeclared, Policy.condition, hways]
  rcases hanswered with ⟨ways, hok⟩ | ⟨f, hrefused⟩
  · right
    rw [hok]
    refine ⟨Condition.ofWays ways, rfl, ?_, not_comesToAsk_of_stranger hstranger hok, ?_, ?_⟩
    · exact Condition.literalsOfAll_ofWays fun w hw => (way_of_stranger hstranger hok w hw).1
    · intro hne
      obtain ⟨clause, hclause⟩ := List.exists_mem_of_ne_nil _ hne
      obtain ⟨w, hw, _⟩ := List.mem_map.mp hclause
      exact (way_of_stranger hstranger hok w hw).2
    · intro hasks hnil
      exact ne_nil_of_comesToAsk hok hasks (List.map_eq_nil_iff.mp hnil)
  · left
    rw [hrefused]
    exact ⟨f, rfl⟩

/-- Where there is only the empty condition, no check allows anything. -/
theorem check_ne_true {a : Data} {r : Resource} {onCallersLink : Bool}
    (hnil : ∀ c, e.condition (e.configIn sys) s a r.type = .ok c → c = []) :
    (e.check onCallersLink s a r sys).1 ≠ .ok true := by
  intro h
  obtain ⟨c, start, hcondition, hask⟩ := exists_ask_of_check h
  obtain rfl := hnil c hcondition
  cases (holds_of_ask (Prod.ext hask rfl)).2

/-- The action gives the subject nothing on resources of the type: it compiles to the constant false, if a fault does
not say what is missing or wrong. -/
structure Withholds (e : LocalEvaluator) (s : Subject) (action type : String) : Prop where
  /-- No check allows it, on whatever connection and whatever the database holds. -/
  check : ∀ onCallersLink r sys, r.type = .text type →
    (e.check onCallersLink s (.text action) r sys).1 ≠ .ok true
  /-- The condition is the constant false, on every column. -/
  compile : ∀ columnRef sys,
    (∃ f, e.compile s (.text action) (.text type) columnRef sys = (.error (.policy f), sys)) ∨
      ∃ sys' fragment, e.compile s (.text action) (.text type) columnRef sys =
          (.ok sys.fragments.all.size, sys') ∧
        sys'.fragments.all = sys.fragments.all.push fragment ∧
        fragment.sql = .text (Sql.boolLiteral e.dialect false) ∧
        ∀ db schema identity row, fragment.admits db schema identity row = false ∧
          fragment.grants db schema identity row = false

/-- The empty condition compiles to the constant false, which admits no row. -/
theorem exists_compile_of_nil {a type : Data}
    (hnil : e.condition (e.configIn sys) s a type = .ok []) (columnRef : Data) :
    ∃ sys' fragment, e.compile s a type columnRef sys = (.ok sys.fragments.all.size, sys') ∧
      sys'.fragments.all = sys.fragments.all.push fragment ∧
      fragment.sql = .text (Sql.boolLiteral e.dialect false) ∧
      ∀ db schema identity row, fragment.admits db schema identity row = false ∧
        fragment.grants db schema identity row = false := by
  have hfalse : Condition.forColumn e.dialect columnRef [] = .ok (Sql.boolLiteral e.dialect false) := rfl
  obtain ⟨sys', hcompile, _, hadded⟩ := compile_apply hnil hfalse
  refine ⟨sys', _, hcompile, hadded, rfl, ?_⟩
  intro db schema identity row
  exact ⟨rfl, rfl⟩

theorem withholds_of_nil
    (h : ∀ config, (∃ f, e.condition config s (.text action) (.text type) = .error (.policy f)) ∨
      e.condition config s (.text action) (.text type) = .ok []) : e.Withholds s action type where
  check onCallersLink r sys hr := by
    refine check_ne_true ?_
    intro c hc
    rw [hr] at hc
    rcases h (e.configIn sys) with ⟨f, hf⟩ | hnil
    · rw [hf] at hc
      cases hc
    · exact (Except.ok.inj (hnil.symm.trans hc)).symm
  compile columnRef sys := by
    rcases h (e.configIn sys) with ⟨f, hf⟩ | hnil
    · refine .inl ⟨f, compile_of_placed_error ?_⟩
      rw [placed, hf]
      rfl
    · exact .inr (exists_compile_of_nil hnil columnRef)

/-- What a subject of another type than the policy's actors is given. What compiles for it names no subject, and has a
clause exactly if some goal that compiling comes to asks for an attribute. So the subject is given nothing where some
goal asks for the subject, which makes compiling fail, or where none asks for an attribute. -/
theorem stranger_given (hkey : e.policy.actorType.isKey = true) (hsized : e.facts.Sized)
    (hstranger : e.policy.isActor s = false) (hdeclared : e.policy.declares type action = true) :
    (∀ config, (∃ f, e.condition config s (.text action) (.text type) = .error (.policy f)) ∨
      ∃ c, e.condition config s (.text action) (.text type) = .ok c ∧ Clause.literalsOfAll c = [] ∧
        ¬ e.policy.ComesToAsk e.policy.AsksForSubject ⟨type, [action]⟩ ∧
        (c ≠ [] ↔ e.policy.ComesToAsk e.policy.AsksForAttribute ⟨type, [action]⟩)) ∧
      (e.policy.ComesToAsk e.policy.AsksForSubject ⟨type, [action]⟩ ∨
        ¬ e.policy.ComesToAsk e.policy.AsksForAttribute ⟨type, [action]⟩ → e.Withholds s action type) := by
  have hcompiled := condition_of_stranger hkey hsized hstranger hdeclared
  refine ⟨hcompiled, ?_⟩
  intro hasks
  refine withholds_of_nil fun config => ?_
  rcases hcompiled config with hf | ⟨c, hc, _, hsubject, hattribute⟩
  · exact .inl hf
  · have hnone := hasks.resolve_left hsubject
    obtain rfl : c = [] := by
      by_contra hne
      exact hnone (hattribute.mp hne)
    exact .inr hc

end LocalEvaluator

/-! ## A library -/

namespace Library

/-- Readers read documents, and everybody reads and browses those that are published. -/
def docBlock : Block where
  name := "Doc"
  roles := ["reader"]
  permissions := ["read", "browse"]
  rules := [⟨"read", .role "reader"⟩, ⟨"read", .hasAttribute "published"⟩, ⟨"browse", .hasAttribute "published"⟩]

def policy : Policy := ⟨[docBlock], .text "User"⟩

/-- The query that gives the readers of documents. -/
def readerQuery : Selection :=
  ⟨"readers", [⟨"actor", .text, false⟩, ⟨"role", .text, false⟩, ⟨"doc", .text, false⟩], none, false⟩

/-- The query that gives the published documents. -/
def publishedQuery : Selection := ⟨"published", [⟨"doc", .text, false⟩], none, false⟩

def facts : FactBook where
  roles := [(.text "Doc", .selection readerQuery)]
  attributes := [((.text "published", .text "Doc"), .selection publishedQuery)]
  sqlTypes := [(.text "Doc", .text), (.text "User", .text)]

def evaluator : LocalEvaluator := { policy, facts }

def robot : Subject := ⟨.text "Robot", .text "r2"⟩

def published : Schema := ⟨"published", [{ name := "doc", type := .text }]⟩

/-- The document `d` is published. -/
def database : Database := ⟨[⟨published, [[.text "d"]]⟩]⟩

def system : System := { disk := database }

theorem ofBlocks_eq : ofBlocks [docBlock] (.text "User") = .ok policy := by decide

theorem sized_facts : facts.Sized where
  roles entry hentry := by
    obtain rfl := List.mem_singleton.mp hentry
    exact FactQuery.sized_selection rfl
  globalRoles := by simp [facts]
  relations := by simp [facts]
  attributes entry hentry := by
    obtain rfl := List.mem_singleton.mp hentry
    exact FactQuery.sized_selection rfl

theorem isActor_robot : policy.isActor robot = false := by simp [isActor, policy, robot]

/-- Reading asks for the readers, so that a robot is given nothing, although published documents are read by
everybody. -/
theorem stranger_given_robot :
    policy.actorType.isKey = true ∧ facts.Sized ∧ policy.isActor robot = false ∧
      policy.declares "Doc" "read" = true ∧ policy.ComesToAsk policy.AsksForSubject ⟨"Doc", ["read"]⟩ ∧
      evaluator.Withholds robot "read" "Doc" := by
  have hreached : docBlock.Reaches ["read"] "reader" := .implied (.grant List.mem_cons_self) List.mem_cons_self
  have hasks : policy.ComesToAsk policy.AsksForSubject ⟨"Doc", ["read"]⟩ :=
    ⟨_, .refl, .role (b := docBlock) rfl hreached List.mem_cons_self⟩
  have hdeclared : evaluator.policy.declares "Doc" "read" = true := by decide
  obtain ⟨_, hwithheld⟩ := LocalEvaluator.stranger_given (e := evaluator) rfl sized_facts isActor_robot hdeclared
  exact ⟨rfl, sized_facts, isActor_robot, hdeclared, hasks, hwithheld (.inl hasks)⟩

/-- The published documents, as a condition sees them. -/
def publishedFact : Subquery := (FactQuery.selection publishedQuery).toSubquery [some .text]

theorem attr_eq : facts.attr (.text "published") (.text "Doc") = .ok publishedFact := by
  rw [FactBook.attr_of_lookup (q := .selection publishedQuery) (by simp [facts]) (FactQuery.sized_selection rfl)]
  simp [publishedFact, FactBook.idType, facts]

/-- Browsing asks for an attribute only, and a robot may do it, though the policy is validated and is not about
robots. -/
theorem robot_browses :
    ofBlocks [docBlock] (.text "User") = .ok policy ∧ facts.Sized ∧ policy.validate (some facts) = .ok () ∧
      policy.isActor robot = false ∧ policy.declares "Doc" "browse" = true ∧
      (evaluator.check false robot (.text "browse") ⟨.text "Doc", .text "d"⟩ system).1 = .ok true := by
  refine ⟨ofBlocks_eq, sized_facts, by decide +kernel, isActor_robot, by decide, ?_⟩
  have hderive : docBlock.derive ["browse"] =
      ⟨"Doc", [], [], [], ["published"], [⟨"browse", .hasAttribute "published"⟩]⟩ := by
    rw [Block.derive_of_requiredHere (by decide)]
    rfl
  have hcondition : evaluator.condition (evaluator.configIn system) robot (.text "browse") (.text "Doc") =
      .ok [.hasAttribute publishedFact] :=
    LocalEvaluator.condition_of_attribute (b := docBlock) (by decide) rfl (by rw [hderive]) (by rw [hderive])
      (by rw [hderive]) (by rw [hderive]) attr_eq
  have htarget : evaluator.target ⟨.text "Doc", .text "d"⟩ = ⟨.text "d", some .text⟩ := by
    simp [LocalEvaluator.target, evaluator, FactBook.idType, facts]
  have htest : LocalEvaluator.Testable [.hasAttribute publishedFact] ⟨.text "d", some .text⟩ database :=
    ⟨by decide, by decide, by decide, by decide, by decide⟩
  have hsees : Bind.Sees (.engine true) system database := ⟨rfl, rfl⟩
  have hanswer := LocalEvaluator.answer_eq hsees (.inr rfl) hcondition (htarget ▸ htest)
  rw [htarget] at hanswer
  exact hanswer.trans (congrArg Except.ok (by decide))

end Library

end RowGuard
