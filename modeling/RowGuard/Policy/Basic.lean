import RowGuard.Policy.Rule

/-!
# Policies

A block declares the roles, permissions, relations and rules of one resource type; a policy is a
list of blocks for distinct types, together with the type of its actors. `ofBlocks_eq_ok_iff` says
that blocks make a policy exactly when no type is declared twice.
-/

namespace RowGuard

/-- Everything declared for one resource type. A relation leads to a resource type. -/
structure Block (ν : Type := String) where
  name : ν
  roles : List ν := []
  permissions : List ν := []
  relations : List (ν × ν) := []
  rules : List (Rule ν) := []
deriving DecidableEq

/-- A policy: the blocks of its resource types and the type of its actors, which is what the document
says and need not be a text. -/
structure Policy (ν : Type := String) where
  blocks : List (Block ν)
  actorType : Data := .text "User"
deriving DecidableEq

namespace Block

variable {ν : Type} [BEq ν] [Name ν]

/-- Whether a name is a role or permission of the block. -/
def declares (b : Block ν) (name : ν) : Bool :=
  b.roles.contains name || b.permissions.contains name

/-- The rules that grant a name, in the order they are declared. -/
def rulesGranting (b : Block ν) (name : ν) : List (Rule ν) :=
  b.rules.filter fun r => r.grant == name

/-- The resource type a relation leads to. -/
def related? (b : Block ν) (relation : ν) : Option ν :=
  (b.relations.lookup relation).filter fun type => !Name.isNull type

/-- Whether the block is that of the system as a whole. -/
def isGlobal (b : Block ν) : Bool := Name.isText b.name globalType

end Block

namespace Policy

variable {ν : Type} [BEq ν] [Name ν]

/-- The first block whose type an earlier block declares already. -/
def repeatedBlock? (seen : List ν) : List (Block ν) → Option ν
  | [] => none
  | b :: rest => if seen.contains b.name then some b.name else repeatedBlock? (b.name :: seen) rest

/-- A policy of the given blocks; no type may be declared twice. -/
def ofBlocks (blocks : List (Block ν)) (actorType : Data) : Except PolicyFault (Policy ν) :=
  match repeatedBlock? [] blocks with
  | some name => .error (.declaredTwice (Name.toData name))
  | none => .ok ⟨blocks, actorType⟩

/-- The block of a resource type, if it is declared. -/
def block? (p : Policy ν) (type : ν) : Option (Block ν) :=
  p.blocks.find? fun b => b.name == type

/-- The block of a resource type. -/
def block (p : Policy ν) (type : ν) : Except PolicyFault (Block ν) :=
  match p.block? type with
  | some b => .ok b
  | none => .error (.undeclaredType (Name.toData type))

/-- The block of the system as a whole, if it is declared. -/
def globalBlock? (p : Policy ν) : Option (Block ν) :=
  p.blocks.find? Block.isGlobal

/-- Whether a name is a role or permission of a resource type. -/
def declares (p : Policy ν) (type name : ν) : Bool :=
  (p.block? type).any (·.declares name)

/-- The roles of a resource type; none if it is not declared. -/
def rolesOf (p : Policy ν) (type : ν) : List ν :=
  ((p.block? type).map (·.roles)).getD []

/-- The rule with its names as plain data. -/
def dataRule (r : Rule ν) : Rule Data where
  grant := Name.toData r.grant
  requires :=
    match r.requires with
    | .role m => .role (Name.toData m)
    | .roleOn m rel => .roleOn (Name.toData m) (Name.toData rel)
    | .globalRole g => .globalRole (Name.toData g)
    | .hasAttribute a => .hasAttribute (Name.toData a)

/-- The policy with its names as plain data. -/
def toData (p : Policy ν) : Policy Data where
  actorType := p.actorType
  blocks := p.blocks.map fun b => {
    name := Name.toData b.name
    roles := b.roles.map Name.toData
    permissions := b.permissions.map Name.toData
    relations := b.relations.map fun r => (Name.toData r.1, Name.toData r.2)
    rules := b.rules.map dataRule }

/-- Whether a subject is of the type of the policy's actors. -/
def isActor (p : Policy ν) (s : Subject) : Bool :=
  p.actorType == s.type

omit [Name ν] in
private theorem repeatedBlock?_eq_none_iff [LawfulBEq ν] (seen : List ν) (blocks : List (Block ν)) :
    repeatedBlock? seen blocks = none ↔
      (∀ b ∈ blocks, b.name ∉ seen) ∧ (blocks.map (·.name)).Nodup := by
  induction blocks generalizing seen with
  | nil => simp [repeatedBlock?]
  | cons b rest ih =>
    by_cases h : b.name ∈ seen
    · simp [repeatedBlock?, h]
    · simp only [repeatedBlock?, List.contains_eq_mem, h, decide_false, Bool.false_eq_true,
        if_false, ih, List.mem_cons, not_or, List.map_cons, List.nodup_cons, List.mem_map,
        not_exists, not_and, forall_eq_or_imp, not_false_eq_true, true_and]
      constructor
      · rintro ⟨h₁, h₂⟩
        exact ⟨fun c hc => (h₁ c hc).2, fun c hc => (h₁ c hc).1, h₂⟩
      · rintro ⟨h₁, h₂, h₃⟩
        exact ⟨fun c hc => ⟨h₂ c hc, h₁ c hc⟩, h₃⟩

/-- Blocks make a policy exactly when their types are distinct. -/
theorem ofBlocks_eq_ok_iff [LawfulBEq ν] (blocks : List (Block ν)) (actorType : Data) :
    ofBlocks blocks actorType = .ok ⟨blocks, actorType⟩ ↔ (blocks.map (·.name)).Nodup := by
  have key := repeatedBlock?_eq_none_iff [] blocks
  simp only [List.not_mem_nil, not_false_eq_true, implies_true, true_and] at key
  rw [← key, ofBlocks]
  cases repeatedBlock? [] blocks <;> simp

omit [Name ν] in
theorem name_of_block? [LawfulBEq ν] {p : Policy ν} {type : ν} {b : Block ν} (h : p.block? type = some b) :
    b.name = type := by
  simpa using List.find?_some h

omit [Name ν] in
theorem mem_of_block? {p : Policy ν} {type : ν} {b : Block ν} (h : p.block? type = some b) :
    b ∈ p.blocks :=
  List.mem_of_find?_eq_some h

end Policy

end RowGuard
