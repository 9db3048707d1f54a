import RowGuard.Fault

/-!
# Rules

A rule grants a role or permission on a resource when the actor meets one requirement. The names in
a rule are texts; a document may also hold other values in their place, so rules, blocks and
policies are parametrised by the type of their names. `Rule.ofFields` reads a rule from its optional
fields and accepts exactly those with one condition (`ofFields_isOk_iff`).
-/

namespace RowGuard

/-- A type whose values can name things in a policy. -/
class Name (ν : Type) where
  /-- The name as it was written. -/
  toData : ν → Data
  /-- The name that is written as a value, if there is one. -/
  ofData? : Data → Option ν
  ofData?_toData : ∀ n, ofData? (toData n) = some n

namespace Name

instance : Name String := ⟨.text, Data.text?, fun _ => rfl⟩

instance : Name Data := ⟨id, some, fun _ => rfl⟩

instance : ReflBEq String := ⟨decide_eq_true rfl⟩

variable {ν : Type} [Name ν]

/-- The name in quotes. -/
def shown (n : ν) : String := (toData n).shown

/-- The name as plain text. -/
def plain (n : ν) : String := (toData n).plain

/-- The name as a text, if it is one. -/
def text? (n : ν) : Option String := (toData n).text?

/-- Whether the name is the given text. -/
def isText (n : ν) (s : String) : Bool := decide (toData n = .text s)

/-- Whether no name was written. -/
def isNull (n : ν) : Bool := decide (toData n = .null)

/-- Whether the name can be looked up. -/
def isKey (n : ν) : Bool := (toData n).isKey

/-- Whether the name comes no later than another. -/
def atMost (m n : ν) : Bool := (toData m).atMost (toData n)

/-- The names in ascending order, if they have one. -/
def sorted? (names : List ν) : Option (List ν) :=
  if Data.allComparable (names.map toData) then some (names.mergeSort atMost) else none

/-- The names as texts in ascending order, if all of them are texts. -/
def sortedTexts? (names : List ν) : Option (List String) :=
  (names.mapM text?).map fun texts => texts.mergeSort fun a b => decide (a ≤ b)

@[simp]
theorem isKey_string (s : String) : isKey s = true := rfl

@[simp]
theorem atMost_string (s t : String) : atMost s t = decide (s ≤ t) := by
  simp [atMost, toData, Data.atMost]

@[simp]
theorem text?_string (s : String) : text? s = some s := rfl

@[simp]
theorem isText_string (s t : String) : isText s t = decide (s = t) := by
  by_cases h : s = t <;> simp [isText, toData, h]

@[simp]
theorem isNull_string (s : String) : isNull s = false := by
  simp [isNull, toData]

end Name

/-- What an actor, or the resource itself, has to be for a rule to apply. -/
inductive Requirement (ν : Type) where
  /-- The actor holds a role on the resource. -/
  | role (name : ν)
  /-- The actor holds a role on the resource that a relation leads to. -/
  | roleOn (name relation : ν)
  /-- The actor holds a role on the system as a whole. -/
  | globalRole (name : ν)
  /-- The resource has an attribute. -/
  | hasAttribute (name : ν)
deriving DecidableEq

/-- The names in the requirement. -/
def Requirement.names {ν : Type} : Requirement ν → List ν
  | .role m => [m]
  | .roleOn m rel => [m, rel]
  | .globalRole g => [g]
  | .hasAttribute a => [a]

/-- A role or permission granted on a resource under one requirement. -/
structure Rule (ν : Type := String) where
  grant : ν
  requires : Requirement ν
deriving DecidableEq

namespace Rule

variable {ν : Type} [Name ν]

/-- Reads a rule from its fields. Exactly one of role, global role and attribute has to be given,
and a relation only together with a role. -/
def ofFields (grant : ν) (role relation globalRole attr : Option ν) :
    Except PolicyFault (Rule ν) :=
  match role, globalRole, attr with
  | some r, none, none =>
    match relation with
    | none => .ok ⟨grant, .role r⟩
    | some rel => .ok ⟨grant, .roleOn r rel⟩
  | none, some g, none => withoutRelation (.globalRole g)
  | none, none, some a => withoutRelation (.hasAttribute a)
  | _, _, _ =>
    .error (.conditionCount (Name.toData grant)
      ((role.toList ++ globalRole.toList ++ attr.toList).length))
where
  /-- A rule whose condition speaks of no role names no relation. -/
  withoutRelation (condition : Requirement ν) : Except PolicyFault (Rule ν) :=
    match relation with
    | none => .ok ⟨grant, condition⟩
    | some rel => .error (.relationWithoutRole (Name.toData grant) (Name.toData rel))

/-- The rule in one line. -/
def describe (r : Rule ν) : String :=
  match r.requires with
  | .hasAttribute a => Name.shown r.grant ++ " if is_" ++ Name.plain a ++ "(resource)"
  | .globalRole g => Name.shown r.grant ++ " if global " ++ Name.shown g
  | .roleOn m rel => Name.shown r.grant ++ " if " ++ Name.shown m ++ " on " ++ Name.shown rel
  | .role m => Name.shown r.grant ++ " if " ++ Name.shown m

/-- The role field of the rule. -/
def roleField (r : Rule ν) : Option ν :=
  match r.requires with
  | .role m | .roleOn m _ => some m
  | _ => none

/-- The relation field of the rule. -/
def relationField (r : Rule ν) : Option ν :=
  match r.requires with
  | .roleOn _ rel => some rel
  | _ => none

/-- The global role field of the rule. -/
def globalRoleField (r : Rule ν) : Option ν :=
  match r.requires with
  | .globalRole g => some g
  | _ => none

/-- The attribute field of the rule. -/
def attributeField (r : Rule ν) : Option ν :=
  match r.requires with
  | .hasAttribute a => some a
  | _ => none

/-- Reading the fields of a rule gives the rule back. -/
theorem ofFields_fields (r : Rule ν) :
    ofFields r.grant r.roleField r.relationField r.globalRoleField r.attributeField = .ok r := by
  obtain ⟨grant, requires⟩ := r
  cases requires <;> rfl

/-- Fields make a rule exactly when one condition is given, and a relation only with a role. -/
theorem ofFields_isOk_iff (grant : ν) (role relation globalRole attr : Option ν) :
    (∃ r, ofFields grant role relation globalRole attr = .ok r) ↔
      (role.toList ++ globalRole.toList ++ attr.toList).length = 1 ∧
        (relation ≠ none → role ≠ none) := by
  cases role <;> cases relation <;> cases globalRole <;> cases attr <;>
    simp [ofFields, ofFields.withoutRelation]

end Rule

end RowGuard
