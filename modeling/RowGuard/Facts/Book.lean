import RowGuard.Facts.Query

/-!
# Fact books

A fact book holds the queries that answer a policy's facts, under what each answers: role
assignments by resource type, global role assignments, relations by their two types and name, and
attributes by name and type. Looking a fact up checks that its query has a column for each argument.
-/

namespace RowGuard

/-- The queries answering facts, and the SQL types of identities by entity type. Names are what the
document says they are; two of them are the same when they are equal as values. -/
structure FactBook where
  roles : List (Data × FactQuery) := []
  globalRoles : Option FactQuery := none
  relations : List ((Data × Data × Data) × FactQuery) := []
  attributes : List ((Data × Data) × FactQuery) := []
  sqlTypes : List (Data × ColumnType) := []
deriving DecidableEq

/-- Puts a value under a key; a value the key had before is replaced. -/
def assign {κ ε : Type} [BEq κ] (key : κ) (value : ε) : List (κ × ε) → List (κ × ε)
  | [] => [(key, value)]
  | (k, v) :: rest => if key == k then (key, value) :: rest else (k, v) :: assign key value rest

/-- Whether a key is equal to itself alone. -/
def IsExact {κ : Type} [BEq κ] (key : κ) : Prop := ∀ other, (key == other) = true ↔ other = key

theorem isExact_text (s : String) : IsExact (Data.text s) := by
  intro other
  simp [Data.text_beq]

theorem IsExact.pair {κ ι : Type} [BEq κ] [BEq ι] {a : κ} {b : ι} (ha : IsExact a) (hb : IsExact b) :
    IsExact (a, b) := by
  rintro ⟨c, d⟩
  have h : ((a, b) == (c, d)) = (a == c && b == d) := rfl
  rw [h, Bool.and_eq_true, ha c, hb d, Prod.mk.injEq]

theorem lookup_assign {κ ε : Type} [BEq κ] {key k : κ} (hkey : IsExact key) (hk : IsExact k)
    (value : ε) (l : List (κ × ε)) :
    (assign key value l).lookup k = if k == key then some value else l.lookup k := by
  induction l with
  | nil => cases h : k == key <;> simp [assign, List.lookup_cons, h]
  | cons entry rest ih =>
    obtain ⟨k', v'⟩ := entry
    cases h : key == k' with
    | true =>
      have := (hkey k').mp h
      subst this
      cases h' : k == k' <;> simp [assign, List.lookup_cons, h, h']
    | false =>
      cases h' : k == k' with
      | true =>
        have := (hk k').mp h'
        subst this
        have h'' : (k' == key) = false := by
          cases hkk : k' == key with
          | false => rfl
          | true =>
            have := (hk key).mp hkk
            subst this
            simp [h] at h'
        simp [assign, List.lookup_cons, h, h', h'']
      | false => simp [assign, List.lookup_cons, h, h', ih]

namespace FactBook

/-- The SQL type of the identities of an entity type. -/
def idType (b : FactBook) (entity : Data) : Option ColumnType :=
  b.sqlTypes.lookup entity

/-- The query as a subquery, if it has one column for each of the types. -/
def checked (signature : String) (types : List (Option ColumnType)) (q : FactQuery) :
    Except Fault Subquery :=
  if q.arity ≠ types.length then
    .error (.policy (.wrongArity signature types.length q.arity))
  else if (q.toSubquery types).columns.all fun c => c.1.isKey then .ok (q.toSubquery types)
  else .error (.shape .wrongType)

/-- The query found for some names, which have to be such as can be looked up. -/
def found (names : List Data) (absent : PolicyFault) (query : Option FactQuery) :
    Except Fault FactQuery :=
  if !names.all Data.isKey then .error (.shape .wrongType)
  else
    match query with
    | some q => .ok q
    | none => .error (.policy absent)

/-- The role assignments on a resource type: actor, role, resource. -/
def role (b : FactBook) (actor type : Data) : Except Fault Subquery := do
  let q ← found [type] (.noRoleFact type) (b.roles.lookup type)
  actor.requireKey
  checked ("has_role(" ++ actor.plain ++ ", String, " ++ type.plain ++ ")")
    [b.idType actor, some .string, b.idType type] q

/-- The global role assignments: actor, role. -/
def globalRole (b : FactBook) (actor : Data) : Except Fault Subquery := do
  let q ← found [] .noGlobalRoleFact b.globalRoles
  actor.requireKey
  checked ("has_role(" ++ actor.plain ++ ", String)") [b.idType actor, some .string] q

/-- The pairs of a relation: resource, related resource. -/
def relation (b : FactBook) (type rel related : Data) : Except Fault Subquery := do
  let q ← found [type, rel, related] (.noRelationFact type rel related)
    (b.relations.lookup (type, rel, related))
  checked ("has_relation(" ++ type.plain ++ ", " ++ rel.plain ++ ", " ++ related.plain ++ ")")
    [b.idType type, b.idType related] q

/-- The resources with an attribute. -/
def attr (b : FactBook) (name type : Data) : Except Fault Subquery := do
  let q ← found [name, type] (.noAttributeFact name type) (b.attributes.lookup (name, type))
  checked ("is_" ++ name.plain ++ "(" ++ type.plain ++ ")") [b.idType type] q

end FactBook

end RowGuard
