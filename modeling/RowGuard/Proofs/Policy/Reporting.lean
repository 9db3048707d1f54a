import RowGuard.Facts.Signature
import RowGuard.Proofs.Access.Strangers

/-!
# What reading a configuration reports

A policy or a fact book is read from a map whose values may be anything. Most of what can be wrong in it is reported as
a fault of the policy; a few fields are gone through or converted as they are, and where that fails the failure stays
what it is. Reading stops at the first trouble, so a field that cannot be gone through matters only where everything
before it is read.

* `Policy.escapes_ofData_iff`: from reading a policy one escapes exactly where the first resource that is not read has
  rules that are, and roles, permissions or relations that cannot be gone through.
* `FactBook.escapes_ofData_iff`: from reading facts one escapes exactly where a section is no map, or the first entry
  that is not read has a key, a type or columns of the wrong shape.
* `configuration_reported_iff`: elsewhere a value is read, or what is wrong is reported as a fault of the policy.
-/

namespace RowGuard

/-! ## What escapes -/

namespace Outcome

variable {α β : Type}

/-- A fault of shape escapes from the computation, and is not reported as one of the policy. -/
def Escapes (x : Except Fault α) : Prop := ∃ fault, x = .error (.shape fault)

theorem not_escapes_ok (a : α) : ¬ Escapes (.ok a) := by
  rintro ⟨fault, h⟩
  cases h

theorem not_escapes_policy (f : PolicyFault) : ¬ Escapes (.error (.policy f) : Except Fault α) := by
  rintro ⟨fault, h⟩
  cases h

theorem escapes_shape (f : ShapeFault) : Escapes (.error (.shape f) : Except Fault α) := ⟨f, rfl⟩

theorem escapes_bind_iff {x : Except Fault α} {f : α → Except Fault β} :
    Escapes (x >>= f) ↔ Escapes x ∨ ∃ a, x = .ok a ∧ Escapes (f a) := by
  simp only [Escapes, bind_eq_error_iff]
  constructor
  · rintro ⟨fault, h | ⟨a, ha, h⟩⟩
    · exact .inl ⟨fault, h⟩
    · exact .inr ⟨a, ha, fault, h⟩
  · rintro (⟨fault, h⟩ | ⟨a, ha, fault, h⟩)
    · exact ⟨fault, .inl h⟩
    · exact ⟨fault, .inr ⟨a, ha, h⟩⟩

/-- Two steps, where what escapes from the second does not depend on the value of the first. -/
theorem escapes_bind_iff_of_forall {x : Except Fault α} {f : α → Except Fault β} {P : Prop}
    (hf : ∀ a, Escapes (f a) ↔ P) : Escapes (x >>= f) ↔ Escapes x ∨ (∃ a, x = .ok a) ∧ P := by
  simp only [escapes_bind_iff, hf, exists_and_right]

theorem escapes_mapM_iff {f : α → Except Fault β} {l : List α} :
    Escapes (l.mapM f) ↔ StopsAt (fun a => ∃ b, f a = .ok b) (fun a => Escapes (f a)) l := by
  simp only [Escapes, mapM_eq_error_iff, StopsAt]
  constructor
  · rintro ⟨fault, before, a, after, hl, hbefore, ha⟩
    exact ⟨before, a, after, hl, hbefore, fault, ha⟩
  · rintro ⟨before, a, after, hl, hbefore, fault, ha⟩
    exact ⟨fault, before, a, after, hl, hbefore, ha⟩

theorem escapes_map_iff {x : Except Fault α} {f : α → β} : Escapes (x.map f) ↔ Escapes x := by
  cases x <;> simp [Escapes, Except.map]

/-- The computation is answered, or a fault of shape escapes from it. -/
def IsSettled (x : Except Fault α) : Prop := IsAnswered x ∨ Escapes x

theorem IsAnswered.not_escapes {x : Except Fault α} (h : IsAnswered x) : ¬ Escapes x := by
  rcases h with ⟨a, rfl⟩ | ⟨f, rfl⟩
  · exact not_escapes_ok a
  · exact not_escapes_policy f

theorem IsSettled.isAnswered_iff {x : Except Fault α} (h : IsSettled x) : IsAnswered x ↔ ¬ Escapes x :=
  ⟨IsAnswered.not_escapes, h.resolve_right⟩

theorem IsSettled.of_ok (a : α) : IsSettled (.ok a) := .inl (.of_ok a)

theorem IsSettled.policy (f : PolicyFault) : IsSettled (.error (.policy f) : Except Fault α) := .inl (.refused f)

theorem IsSettled.shape (f : ShapeFault) : IsSettled (.error (.shape f) : Except Fault α) := .inr (escapes_shape f)

theorem IsSettled.bind {x : Except Fault α} {f : α → Except Fault β} (hx : IsSettled x) (hf : ∀ a, IsSettled (f a)) :
    IsSettled (x >>= f) := by
  rcases hx with (⟨a, rfl⟩ | ⟨fault, rfl⟩) | ⟨fault, rfl⟩
  · exact hf a
  · exact .policy fault
  · exact .shape fault

theorem isSettled_mapM {f : α → Except Fault β} (hf : ∀ a, IsSettled (f a)) (l : List α) : IsSettled (l.mapM f) := by
  induction l with
  | nil => exact .of_ok []
  | cons a l ih =>
    rw [List.mapM_cons]
    exact (hf a).bind fun b => ih.bind fun bs => .of_ok (b :: bs)

theorem IsSettled.map {x : Except Fault α} (h : IsSettled x) (f : α → β) : IsSettled (x.map f) := by
  rcases h with (⟨a, rfl⟩ | ⟨fault, rfl⟩) | ⟨fault, rfl⟩
  · exact .of_ok (f a)
  · exact .policy fault
  · exact .shape fault

theorem isSettled_mapError_policy (x : Except PolicyFault α) : IsSettled (x.mapError .policy) := by
  cases x with
  | error f => exact .policy f
  | ok a => exact .of_ok a

theorem not_escapes_mapError_policy (x : Except PolicyFault α) : ¬ Escapes (x.mapError .policy) := by
  cases x with
  | error f => exact not_escapes_policy f
  | ok a => exact not_escapes_ok a

theorem escapes_mapError_shape_iff {x : Except ShapeFault α} : Escapes (x.mapError .shape) ↔ ¬ ∃ a, x = .ok a := by
  cases x <;> simp [Escapes, Except.mapError]

end Outcome

open Outcome

/-! ## Values to be gone through -/

namespace Data

theorem text?_eq_none_iff {d : Data} : d.text? = none ↔ ∀ s, d ≠ .text s := by
  unfold text?
  split
  · simp
  · next htext => exact iff_of_true rfl htext

/-- The value offers exactly two values, of which the first can be a key. -/
def IsPair (item : Data) : Prop := ∃ key value, item.items? = some [key, value] ∧ key.isKey = true

/-- The value is a map, or it offers pairs one by one. -/
def OffersPairs (d : Data) : Prop :=
  (∃ entries, d = .map entries) ∨ ∃ items, d.items? = some items ∧ ∀ item ∈ items, item.IsPair

private theorem addPair_eq (entries : List (Data × Data)) (item : Data) :
    pairs?.addPair entries item = (pairs?.addPair [] item).map fun pair =>
      pair.foldl (fun entries entry => insert entry.1 entry.2 entries) entries := by
  unfold pairs?.addPair
  rcases item.items? with _ | _ | ⟨key, _ | ⟨value, _ | ⟨third, rest⟩⟩⟩
  · rfl
  · rfl
  · rfl
  · cases h : key.isKey <;> simp [h, Except.map, insert]
  · rfl

private theorem addPairs_eq (items : List Data) (entries : List (Data × Data)) :
    items.foldlM pairs?.addPair entries = (items.mapM (pairs?.addPair [])).map
      (List.foldl (fun entries pair => pair.foldl (fun entries entry => insert entry.1 entry.2 entries) entries)
        entries) := by
  rw [← foldlM_map]
  exact congrArg (fun f => List.foldlM f entries items) (funext fun entries => funext (addPair_eq entries))

private theorem exists_addPair_iff (item : Data) : (∃ pair, pairs?.addPair [] item = .ok pair) ↔ item.IsPair := by
  unfold pairs?.addPair IsPair
  rcases item.items? with _ | _ | ⟨key, _ | ⟨value, _ | ⟨third, rest⟩⟩⟩
  · simp
  · simp
  · simp
  · cases h : key.isKey <;> simp [h]
  · simp

theorem exists_pairs?_iff (d : Data) : (∃ entries, d.pairs? = .ok entries) ↔ d.OffersPairs := by
  unfold pairs? OffersPairs
  split
  case h_1 entries => simp
  case h_2 hmap =>
    have hmap' : ¬ ∃ entries, d = .map entries := by
      rintro ⟨entries, rfl⟩
      exact hmap entries rfl
    rw [or_iff_right hmap']
    cases hitems : d.items? with
    | none => simp
    | some items =>
      simp only [addPairs_eq, exists_map_eq_ok_iff, exists_mapM_iff, exists_addPair_iff, Option.some.injEq,
        exists_eq_left']

end Data

/-! ## Policies -/

namespace Policy

/-- The rules of a body are a list, and each of them is read. -/
def RulesRead (resource : Data) (body : List (Data × Data)) : Prop :=
  ∀ value, Data.lookup "rules" body = some value →
    ∃ items, value.items? = some items ∧ ∀ raw ∈ items, ∃ rule, readRule resource raw = .ok rule

/-- A field of a body cannot be gone through: roles or permissions offer no items, or relations no pairs. -/
inductive Awry (body : List (Data × Data)) : Prop where
  | items (field : String) (value : Data) (hfield : field ∈ ["roles", "permissions"])
      (hvalue : Data.lookup field body = some value) (hitems : value.items? = none)
  | pairs (value : Data) (hvalue : Data.lookup "relations" body = some value) (hpairs : ¬ value.OffersPairs)

/-- The resource has a body of which the rules are read, and another field cannot be gone through. -/
def Strays (entry : Data × Data) : Prop :=
  ∃ body, entry.2 = .map body ∧ RulesRead entry.1 body ∧ Awry body

/-- The first resource of a document that is not read has a field that cannot be gone through. -/
def StraysIn (document : List (Data × Data)) : Prop :=
  ∃ resources, Data.lookup "resources" document = some (.map resources) ∧
    StopsAt (fun entry => ∃ block, readBlock entry.1 entry.2 = .ok block) Strays resources

theorem bodyItems_ok_or_escapes (field : String) (body : List (Data × Data)) :
    (∃ items, bodyItems field body = .ok items) ∨ Escapes (bodyItems field body) := by
  unfold bodyItems
  cases Data.lookup field body with
  | none => exact .inl ⟨[], rfl⟩
  | some value =>
    rcases hitems : value.items? with _ | items
    · exact .inr ⟨.wrongType, by simp [hitems]⟩
    · exact .inl ⟨items, by simp [hitems]⟩

theorem escapes_bodyItems_iff {field : String} {body : List (Data × Data)} :
    Escapes (bodyItems field body) ↔ ∃ value, Data.lookup field body = some value ∧ value.items? = none := by
  unfold bodyItems
  cases Data.lookup field body with
  | none => simp [not_escapes_ok]
  | some value =>
    cases h : value.items? with
    | none => simp [h, escapes_shape]
    | some items => simp [h, not_escapes_ok]

/-- The rules of a body. -/
def rulesOf (resource : Data) (body : List (Data × Data)) : Except Fault (List (Rule Data)) :=
  match Data.lookup "rules" body with
  | none => pure []
  | some value =>
    match value.items? with
    | none => throw (.policy (.invalidRule resource (.rulesNotList value.kind)))
    | some items => (items.mapM (readRule resource)).mapError .policy

/-- The relations of a body. -/
def relationsOf (body : List (Data × Data)) : Except Fault (List (Data × Data)) :=
  match Data.lookup "relations" body with
  | none => pure []
  | some value => value.pairs?.mapError .shape

theorem readBlock_map (resource : Data) (body : List (Data × Data)) :
    readBlock resource (.map body) = (do
      let rules ← rulesOf resource body
      let roles ← bodyItems "roles" body
      let permissions ← bodyItems "permissions" body
      let relations ← relationsOf body
      return { name := resource, roles, permissions, relations, rules }) := by
  -- an empty map stands for itself
  have hbody : (if (Data.map body).truthy = true then Data.map body else .map []) = .map body := by cases body <;> rfl
  unfold readBlock rulesOf relationsOf
  simp only [hbody]
  rcases Data.lookup "relations" body with _ | relations <;> rcases Data.lookup "rules" body with _ | rules
  · rfl
  · dsimp only
    cases rules.items? <;> rfl
  · rfl
  · dsimp only
    cases rules.items? <;> rfl

theorem isAnswered_rulesOf (resource : Data) (body : List (Data × Data)) : IsAnswered (rulesOf resource body) := by
  unfold rulesOf
  cases Data.lookup "rules" body with
  | none => exact .of_ok []
  | some value =>
    rcases hitems : value.items? with _ | items <;> simp only [hitems]
    · exact .refused _
    · exact (isSettled_mapError_policy _).resolve_right (not_escapes_mapError_policy _)

theorem exists_rulesOf_iff {resource : Data} {body : List (Data × Data)} :
    (∃ rules, rulesOf resource body = .ok rules) ↔ RulesRead resource body := by
  unfold rulesOf RulesRead
  cases Data.lookup "rules" body with
  | none => simp
  | some value =>
    cases h : value.items? with
    | none => simp [h, throw, throwThe, MonadExceptOf.throw]
    | some items => simp [h, mapError_eq_ok_iff, exists_mapM_iff]

theorem escapes_relationsOf_iff {body : List (Data × Data)} :
    Escapes (relationsOf body) ↔ ∃ value, Data.lookup "relations" body = some value ∧ ¬ value.OffersPairs := by
  unfold relationsOf
  cases Data.lookup "relations" body with
  | none => simp [not_escapes_ok]
  | some value => simp [escapes_mapError_shape_iff, Data.exists_pairs?_iff]

theorem relationsOf_ok_or_escapes (body : List (Data × Data)) :
    (∃ relations, relationsOf body = .ok relations) ∨ Escapes (relationsOf body) := by
  unfold relationsOf
  cases Data.lookup "relations" body with
  | none => exact .inl ⟨[], rfl⟩
  | some value =>
    rw [escapes_mapError_shape_iff]
    simp only [mapError_eq_ok_iff]
    exact em _

theorem readBlock_of_not_map (resource : Data) {body : Data} (h : ∀ entries, body ≠ .map entries) :
    IsAnswered (readBlock resource body) := by
  by_cases htruthy : body.truthy = true
  · unfold readBlock
    rw [if_pos htruthy]
    split
    · exact absurd rfl (h _)
    · exact .refused _
  · unfold readBlock
    rw [if_neg htruthy]
    exact .of_ok _

theorem awry_iff {body : List (Data × Data)} :
    Awry body ↔ Escapes (bodyItems "roles" body) ∨ Escapes (bodyItems "permissions" body) ∨
      Escapes (relationsOf body) := by
  simp only [escapes_bodyItems_iff, escapes_relationsOf_iff]
  constructor
  · rintro (⟨field, value, hfield, hvalue, hitems⟩ | ⟨value, hvalue, hpairs⟩)
    · rcases List.mem_pair.mp hfield with rfl | rfl
      · exact .inl ⟨value, hvalue, hitems⟩
      · exact .inr (.inl ⟨value, hvalue, hitems⟩)
    · exact .inr (.inr ⟨value, hvalue, hpairs⟩)
  · rintro (⟨value, hvalue, hitems⟩ | ⟨value, hvalue, hitems⟩ | ⟨value, hvalue, hpairs⟩)
    · exact .items "roles" value (by simp) hvalue hitems
    · exact .items "permissions" value (by simp) hvalue hitems
    · exact .pairs value hvalue hpairs

/-- Once the rules are read, a fault of shape escapes exactly where one of the other fields is awry. -/
theorem escapes_fields_iff (body : List (Data × Data))
    (make : List Data → List Data → List (Data × Data) → Block Data) :
    Escapes (do
      let roles ← bodyItems "roles" body
      let permissions ← bodyItems "permissions" body
      let relations ← relationsOf body
      return make roles permissions relations) ↔ Awry body := by
  rw [awry_iff]
  have hrelations : ∀ roles permissions, Escapes (relationsOf body >>= fun relations =>
      pure (make roles permissions relations)) ↔ Escapes (relationsOf body) := fun roles permissions => by
    simp only [pure_eq_ok, escapes_bind_iff, not_escapes_ok, and_false, exists_false, or_false]
  rw [escapes_bind_iff_of_forall fun roles => escapes_bind_iff_of_forall (hrelations roles)]
  -- a field is read or lets a fault escape, so which of them comes first makes no difference
  have hroles := bodyItems_ok_or_escapes "roles" body
  have hpermissions := bodyItems_ok_or_escapes "permissions" body
  tauto

theorem isSettled_readBlock (resource body : Data) : IsSettled (readBlock resource body) := by
  by_cases hbody : ∃ entries, body = .map entries
  · obtain ⟨entries, rfl⟩ := hbody
    rw [readBlock_map]
    refine IsSettled.bind (.inl (isAnswered_rulesOf resource entries)) fun _ => ?_
    refine IsSettled.bind ((bodyItems_ok_or_escapes "roles" entries).imp_left .inl) fun _ => ?_
    refine IsSettled.bind ((bodyItems_ok_or_escapes "permissions" entries).imp_left .inl) fun _ => ?_
    exact IsSettled.bind ((relationsOf_ok_or_escapes entries).imp_left .inl) fun _ => .of_ok _
  · exact .inl (readBlock_of_not_map resource fun entries h => hbody ⟨entries, h⟩)

theorem escapes_readBlock_iff {entry : Data × Data} : Escapes (readBlock entry.1 entry.2) ↔ Strays entry := by
  obtain ⟨resource, body⟩ := entry
  constructor
  · intro h
    by_cases hbody : ∃ entries, body = .map entries
    · obtain ⟨entries, rfl⟩ := hbody
      rw [readBlock_map] at h
      -- rules are the one field from which nothing escapes
      obtain ⟨rules, hrules, h⟩ :=
        (escapes_bind_iff.mp h).resolve_left (isAnswered_rulesOf resource entries).not_escapes
      exact ⟨entries, rfl, exists_rulesOf_iff.mp ⟨rules, hrules⟩, (escapes_fields_iff entries _).mp h⟩
    · exact absurd h (readBlock_of_not_map resource fun entries h => hbody ⟨entries, h⟩).not_escapes
  · rintro ⟨entries, hentries, hread, hawry⟩
    obtain rfl : body = .map entries := hentries
    obtain ⟨rules, hrules⟩ := exists_rulesOf_iff.mpr hread
    rw [readBlock_map, hrules]
    exact (escapes_fields_iff entries _).mpr hawry

theorem isSettled_ofData (document : List (Data × Data)) : IsSettled (ofData (.map document)) := by
  simp only [ofData]
  split
  · exact (isSettled_mapM (fun _ => isSettled_readBlock _ _) _).bind fun _ => isSettled_mapError_policy _
  · exact .policy .noResources

/-- A fault of shape escapes from reading a policy exactly where its first resource that is not read has rules that are,
and another field that cannot be gone through. -/
theorem escapes_ofData_iff (document : List (Data × Data)) : Escapes (ofData (.map document)) ↔ StraysIn document := by
  simp only [ofData, StraysIn]
  split
  case h_1 resources hresources =>
    simp only [escapes_bind_iff, escapes_mapM_iff, escapes_readBlock_iff, not_escapes_mapError_policy, and_false,
      exists_false, or_false, hresources, Option.some.injEq, Data.map.injEq, exists_eq_left']
  case h_2 hresources =>
    refine iff_of_false (not_escapes_policy .noResources) ?_
    rintro ⟨resources, h, -⟩
    exact hresources resources h

end Policy

/-! ## Fact books -/

namespace FactBook

/-- A section is there and not empty, but no map. -/
def NoSection (field : String) (document : List (Data × Data)) : Prop :=
  ∃ value, Data.lookup field document = some value ∧ value.truthy = true ∧ ∀ entries, value ≠ .map entries

/-- The entries of a section; a section that is missing or no map has none. -/
def entriesOf (field : String) (document : List (Data × Data)) : List (Data × Data) :=
  match Data.lookup field document with
  | some (.map entries) => entries
  | _ => []

/-- A fact under a key that is no text, or with a query under a signature and columns that offer no items. -/
inductive Awry : Data × Data → Prop where
  | key {entry : Data × Data} (hkey : entry.1.text? = none) : Awry entry
  | columns (text : String) (sig : Signature) (fields : List (Data × Data)) (query value : Data)
      (hsig : Signature.parse? text = some sig) (hquery : Data.lookup "query" fields = some query)
      (hvalue : Data.lookup "columns" fields = some value) (hitems : value.items? = none) :
      Awry (.text text, .map fields)

/-- A value that is no name: neither a text nor bytes. -/
def Nameless (value : Data) : Prop := value.text? = none ∧ ∀ bytes, value ≠ .scalar (.bytes bytes)

/-- The first trouble of a fact document is a section that is no map, a fact that is awry or a type without a name.
Types are read after all facts. -/
inductive StraysIn (document : List (Data × Data)) : Prop where
  | facts (h : NoSection "facts" document)
  | fact (h : StopsAt (fun entry => ∃ b, readFact {} entry = .ok b) Awry (entriesOf "facts" document))
  | types (hfacts : ∀ entry ∈ entriesOf "facts" document, ∃ b, readFact {} entry = .ok b)
      (h : NoSection "sql_types" document)
  | type (hfacts : ∀ entry ∈ entriesOf "facts" document, ∃ b, readFact {} entry = .ok b)
      (h : StopsAt (fun entry => ∃ type, readSqlType entry.2 = .ok type) (fun entry => Nameless entry.2)
        (entriesOf "sql_types" document))

theorem section?_of_noSection {field : String} {document : List (Data × Data)}
    (h : NoSection field document) : section? field document = .error (.shape .noSuchField) := by
  obtain ⟨value, hvalue, htruthy, hmap⟩ := h
  simp only [section?, hvalue, Option.getD_some]
  cases value with
  | map entries => exact absurd rfl (hmap entries)
  | scalar _ | list _ | tuple _ | set _ => exact if_pos htruthy

theorem section?_of_not {field : String} {document : List (Data × Data)}
    (h : ¬ NoSection field document) : section? field document = .ok (entriesOf field document) := by
  simp only [section?, entriesOf]
  rcases hvalue : Data.lookup field document with _ | value
  · rfl
  · rw [Option.getD_some]
    by_cases hmap : ∃ entries, value = .map entries
    · obtain ⟨entries, rfl⟩ := hmap
      rfl
    · have hmap' : ∀ entries, value ≠ .map entries := fun entries h => hmap ⟨entries, h⟩
      have htruthy : ¬ value.truthy = true := fun htruthy => h ⟨value, hvalue, htruthy, hmap'⟩
      cases value with
      | map entries => exact absurd rfl (hmap' entries)
      | scalar _ | list _ | tuple _ | set _ => exact if_neg htruthy

theorem escapes_section?_bind_iff {α : Type} {field : String} {document : List (Data × Data)}
    {f : List (Data × Data) → Except Fault α} :
    Escapes (section? field document >>= f) ↔ NoSection field document ∨ Escapes (f (entriesOf field document)) := by
  by_cases h : NoSection field document
  · rw [section?_of_noSection h]
    exact iff_of_true (escapes_shape _) (.inl h)
  · rw [section?_of_not h, ok_bind, or_iff_right h]

/-- The query of a fact and the slot it fills. -/
def factOf (entry : Data × Data) : Except Fault (FactQuery × Slot) :=
  match entry.1 with
  | .text text =>
    match Signature.parse? text with
    | none => .error (.policy (.malformedSignature text))
    | some sig => readQuery text entry.2 >>= fun query =>
      match sig.slot? with
      | none => .error (.policy (.unsupportedSignature text))
      | some slot => .ok (query, slot)
  | _ => .error (.shape .wrongType)

theorem readFact_eq (b : FactBook) (entry : Data × Data) :
    readFact b entry = (factOf entry).map fun fact => b.fill fact.1 fact.2 := by
  obtain ⟨key, body⟩ := entry
  unfold readFact factOf
  cases key with
  | scalar value =>
    cases value with
    | text text =>
      dsimp only
      rcases Signature.parse? text with _ | sig
      · rfl
      · dsimp only
        rcases readQuery text body with _ | query
        · rfl
        · simp only [ok_bind]
          rcases sig.slot? with _ | slot <;> rfl
    | _ => rfl
  | _ => rfl

theorem exists_readFact_iff (b : FactBook) {entry : Data × Data} :
    (∃ b', readFact b entry = .ok b') ↔ ∃ fact, factOf entry = .ok fact := by
  rw [readFact_eq, exists_map_eq_ok_iff]

/-- The columns of a query, read like the items of a field, are at least one. -/
theorem readQuery_map {sig : String} {fields : List (Data × Data)} {query : Data}
    (hquery : Data.lookup "query" fields = some query) :
    readQuery sig (.map fields) = Policy.bodyItems "columns" fields >>= fun columns =>
      if columns.isEmpty then .error (.policy .noColumns) else .ok (.sql (Text.strip query.plain) columns) := by
  unfold readQuery Policy.bodyItems
  simp only [hquery]
  rcases Data.lookup "columns" fields with _ | value
  · rfl
  · dsimp only
    rcases value.items? with _ | _ | _ <;> rfl

theorem readQuery_of_no_query {sig : String} {body : Data}
    (h : ∀ fields query, body = .map fields → Data.lookup "query" fields ≠ some query) :
    readQuery sig body = .error (.policy (.noQuery sig)) := by
  cases body with
  | map fields =>
    have hquery : Data.lookup "query" fields = none :=
      Option.eq_none_iff_forall_ne_some.mpr fun query => h fields query rfl
    unfold readQuery
    simp only [hquery]
    rfl
  | scalar _ | list _ | tuple _ | set _ => rfl

theorem isSettled_readQuery (sig : String) (body : Data) : IsSettled (readQuery sig body) := by
  by_cases h : ∃ fields query, body = .map fields ∧ Data.lookup "query" fields = some query
  · obtain ⟨fields, query, rfl, hquery⟩ := h
    rw [readQuery_map hquery]
    refine IsSettled.bind ((Policy.bodyItems_ok_or_escapes "columns" fields).imp_left .inl) fun columns => ?_
    cases columns with
    | nil => exact .policy .noColumns
    | cons column rest => exact .of_ok _
  · rw [readQuery_of_no_query fun fields query hbody hquery => h ⟨fields, query, hbody, hquery⟩]
    exact .policy _

/-- A fault of shape escapes from reading a query exactly where its columns offer no items. -/
theorem escapes_readQuery_iff {sig : String} {body : Data} :
    Escapes (readQuery sig body) ↔ ∃ fields query value, body = .map fields ∧ Data.lookup "query" fields = some query ∧
      Data.lookup "columns" fields = some value ∧ value.items? = none := by
  by_cases h : ∃ fields query, body = .map fields ∧ Data.lookup "query" fields = some query
  · obtain ⟨fields, query, rfl, hquery⟩ := h
    have hrest : ∀ columns : List Data, ¬ Escapes (if columns.isEmpty then .error (.policy .noColumns)
        else .ok (FactQuery.sql (Text.strip query.plain) columns)) := fun columns => by
      cases columns with
      | nil => exact not_escapes_policy .noColumns
      | cons column rest => exact not_escapes_ok _
    simp only [readQuery_map hquery, escapes_bind_iff, hrest, and_false, exists_false, or_false,
      Policy.escapes_bodyItems_iff]
    constructor
    · rintro ⟨value, hvalue, hitems⟩
      exact ⟨fields, query, value, rfl, hquery, hvalue, hitems⟩
    · rintro ⟨_, _, value, hbody, -, hvalue, hitems⟩
      cases hbody
      exact ⟨value, hvalue, hitems⟩
  · rw [readQuery_of_no_query fun fields query hbody hquery => h ⟨fields, query, hbody, hquery⟩]
    refine iff_of_false (not_escapes_policy _) ?_
    rintro ⟨fields, query, _, hbody, hquery, -⟩
    exact h ⟨fields, query, hbody, hquery⟩

theorem isSettled_factOf (entry : Data × Data) : IsSettled (factOf entry) := by
  unfold factOf
  split
  case h_1 text htext =>
    rcases Signature.parse? text with _ | sig
    · exact .policy _
    · refine (isSettled_readQuery text entry.2).bind fun query => ?_
      rcases sig.slot? with _ | slot
      · exact .policy _
      · exact .of_ok _
  case h_2 => exact .shape .wrongType

/-- A fault of shape escapes from reading a fact exactly where it is awry. -/
theorem escapes_factOf_iff {entry : Data × Data} : Escapes (factOf entry) ↔ Awry entry := by
  obtain ⟨key, body⟩ := entry
  unfold factOf
  split
  case h_1 text htext =>
    obtain rfl : key = .text text := htext
    rcases hsig : Signature.parse? text with _ | sig
    · refine iff_of_false (not_escapes_policy _) ?_
      rintro (hkey | ⟨_, sig, _, _, _, hsig', _⟩)
      · cases hkey
      · rw [hsig] at hsig'
        cases hsig'
    · -- what comes after the query is reported
      have hslot : ∀ query : FactQuery, ¬ Escapes (match sig.slot? with
          | none => .error (.policy (.unsupportedSignature text))
          | some slot => .ok (query, slot)) := fun query => by
        rcases sig.slot? with _ | slot
        · exact not_escapes_policy _
        · exact not_escapes_ok _
      simp only [escapes_bind_iff, hslot, and_false, exists_false, or_false, escapes_readQuery_iff]
      constructor
      · rintro ⟨fields, query, value, rfl, hquery, hvalue, hitems⟩
        exact .columns text sig fields query value hsig hquery hvalue hitems
      · rintro (hkey | ⟨_, _, fields, query, value, _, hquery, hvalue, hitems⟩)
        · cases hkey
        · exact ⟨fields, query, value, rfl, hquery, hvalue, hitems⟩
  case h_2 htext =>
    exact iff_of_true (escapes_shape _) (.key (Data.text?_eq_none_iff.mpr htext))

theorem foldlM_readFact (facts : List (Data × Data)) (b : FactBook) :
    facts.foldlM readFact b = (facts.mapM factOf).map (List.foldl (fun b fact => b.fill fact.1 fact.2) b) := by
  rw [← foldlM_map]
  exact congrArg (fun f => List.foldlM f b facts) (funext fun b => funext (readFact_eq b))

/-- Reads the name of a type, and keeps it with the entity it is the type of. -/
def typeOf (entry : Data × Data) : Except Fault (Data × ColumnType) := (readSqlType entry.2).map (Prod.mk entry.1)

theorem foldlM_readSqlType (entries : List (Data × Data)) (types : List (Data × ColumnType)) :
    entries.foldlM (fun types entry => do return assign entry.1 (← readSqlType entry.2) types) types =
      (entries.mapM typeOf).map (List.foldl (fun types type => assign type.1 type.2 types) types) := by
  rw [← foldlM_map]
  refine congrArg (fun f => List.foldlM f types entries) (funext fun types => funext fun entry => ?_)
  unfold typeOf
  cases readSqlType entry.2 <;> rfl

theorem isSettled_readSqlType (value : Data) : IsSettled (readSqlType value) := by
  unfold readSqlType
  split
  · split
    · exact .of_ok _
    · exact .policy _
  · exact .policy _
  · exact .shape _

theorem escapes_readSqlType_iff {value : Data} : Escapes (readSqlType value) ↔ Nameless value := by
  unfold readSqlType Nameless
  split
  case h_1 name =>
    refine iff_of_false ?_ (by simp [Data.text?])
    split
    · exact not_escapes_ok _
    · exact not_escapes_policy _
  case h_2 bytes => exact iff_of_false (not_escapes_policy _) (by simp)
  case h_3 htext hbytes =>
    exact iff_of_true (escapes_shape _) ⟨Data.text?_eq_none_iff.mpr htext, hbytes⟩

theorem isSettled_section? (field : String) (document : List (Data × Data)) : IsSettled (section? field document) := by
  by_cases h : NoSection field document
  · rw [section?_of_noSection h]
    exact .shape _
  · rw [section?_of_not h]
    exact .of_ok _

theorem isSettled_ofData (document : List (Data × Data)) : IsSettled (ofData (.map document)) := by
  simp only [ofData, foldlM_readFact, foldlM_readSqlType]
  refine (isSettled_section? "facts" document).bind fun facts => ?_
  refine ((isSettled_mapM isSettled_factOf facts).map _).bind fun book => ?_
  refine (isSettled_section? "sql_types" document).bind fun types => ?_
  exact ((isSettled_mapM (fun entry => (isSettled_readSqlType entry.2).map _) types).map _).bind fun _ => .of_ok _

theorem escapes_typesOf_iff {entries : List (Data × Data)} :
    Escapes (entries.mapM typeOf) ↔ StopsAt (fun entry => ∃ type, readSqlType entry.2 = .ok type)
      (fun entry => Nameless entry.2) entries := by
  simp only [escapes_mapM_iff, typeOf, escapes_map_iff, exists_map_eq_ok_iff, escapes_readSqlType_iff]

theorem escapes_factsOf_iff {facts : List (Data × Data)} :
    Escapes (facts.mapM factOf) ↔ StopsAt (fun entry => ∃ b, readFact {} entry = .ok b) Awry facts := by
  simp only [escapes_mapM_iff, escapes_factOf_iff, exists_readFact_iff]

/-- A fault of shape escapes from reading facts exactly where the first trouble of the document is a section that is no
map, a fact that is awry or a type without a name. -/
theorem escapes_ofData_iff (document : List (Data × Data)) : Escapes (ofData (.map document)) ↔ StraysIn document := by
  have hread : (∃ facts, (entriesOf "facts" document).mapM factOf = .ok facts) ↔
      ∀ entry ∈ entriesOf "facts" document, ∃ b, readFact {} entry = .ok b := by
    simp only [exists_mapM_iff, exists_readFact_iff]
  have htypes : ∀ book : FactBook, Escapes (section? "sql_types" document >>= fun types =>
      (types.mapM typeOf).map (List.foldl (fun types type => assign type.1 type.2 types) []) >>= fun types =>
      pure { book with sqlTypes := types }) ↔ NoSection "sql_types" document ∨
        StopsAt (fun entry => ∃ type, readSqlType entry.2 = .ok type) (fun entry => Nameless entry.2)
          (entriesOf "sql_types" document) := fun book => by
    rw [escapes_section?_bind_iff]
    simp only [pure_eq_ok, escapes_bind_iff, escapes_map_iff, escapes_typesOf_iff, not_escapes_ok, and_false,
      exists_false, or_false]
  simp only [ofData, foldlM_readFact, foldlM_readSqlType]
  rw [escapes_section?_bind_iff, escapes_bind_iff_of_forall htypes, escapes_map_iff, exists_map_eq_ok_iff, hread,
    escapes_factsOf_iff]
  constructor
  · rintro (h | h | ⟨hfacts, h | h⟩)
    · exact .facts h
    · exact .fact h
    · exact .types hfacts h
    · exact .type hfacts h
  · rintro (h | h | ⟨hfacts, h⟩ | ⟨hfacts, h⟩)
    · exact .inl h
    · exact .inr (.inl h)
    · exact .inr (.inr ⟨hfacts, .inl h⟩)
    · exact .inr (.inr ⟨hfacts, .inr h⟩)

end FactBook

/-- Reading a policy or facts from any map gives a value, says what is wrong in the configuration, or lets a fault of
shape escape; the last exactly where the first trouble is with a field that is gone through or converted as it is. -/
theorem configuration_reported_iff (document : List (Data × Data)) :
    (IsAnswered (Policy.ofData (.map document)) ↔ ¬ Policy.StraysIn document) ∧
      (IsAnswered (FactBook.ofData (.map document)) ↔ ¬ FactBook.StraysIn document) ∧
      IsSettled (Policy.ofData (.map document)) ∧ IsSettled (FactBook.ofData (.map document)) := by
  refine ⟨?_, ?_, Policy.isSettled_ofData document, FactBook.isSettled_ofData document⟩
  · rw [(Policy.isSettled_ofData document).isAnswered_iff, Policy.escapes_ofData_iff]
  · rw [(FactBook.isSettled_ofData document).isAnswered_iff, FactBook.escapes_ofData_iff]

/-! ## Drafts of a configuration -/

namespace Drafts

/-- A policy of one type, with one field of its body. -/
def docs (field : String) (value : Data) : Data :=
  .map [(.text "resources", .map [(.text "Doc", .map [(.text field, value)])])]

/-- The facts of open documents, with the columns of their query. -/
def openDocs (columns : Data) : Data :=
  .map [(.text "facts", .map [(.text "is_open(Doc:_)", .map
    [(.text "query", .text "SELECT id FROM open_docs"), (.text "columns", columns)])])]

/-- Rules that are null are reported, while roles or columns that are null, relations that are a list of names and a
type that is a number make a fault of shape escape. -/
theorem fields_escape :
    IsAnswered (Policy.ofData (docs "rules" .null)) ∧ ¬ IsAnswered (Policy.ofData (docs "roles" .null)) ∧
      ¬ IsAnswered (Policy.ofData (docs "relations" (.list [.text "parent"]))) ∧
      ¬ IsAnswered (FactBook.ofData (openDocs .null)) ∧
      ¬ IsAnswered (FactBook.ofData (.map [(.text "sql_types", .map [(.text "Doc", .int 7)])])) := by
  refine ⟨.inr ⟨.invalidRule (.text "Doc") (.rulesNotList "NoneType"), by cbv⟩, fun h => h.not_escapes ?_,
    fun h => h.not_escapes ?_, fun h => h.not_escapes ?_, fun h => h.not_escapes ?_⟩
  · exact ⟨.wrongType, by cbv⟩
  · exact ⟨.badValue, by cbv⟩
  · exact ⟨.wrongType, by cbv⟩
  · exact ⟨.noSuchField, by cbv⟩

end Drafts

end RowGuard
