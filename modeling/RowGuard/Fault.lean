import RowGuard.Data

/-!
# Faults

Everything that can go wrong, as causes. "You may not do this" (`Denial`) and "the system is broken"
(`PolicyFault`, `dataAccess`, `sql`) are different constructors throughout, so that no caller can
take one for the other. `Fault.message?` is the wording of each cause that has one.
-/

namespace RowGuard

/-- An actor. -/
structure Subject where
  type : Data
  id : Data
deriving DecidableEq, Inhabited

/-- A typed, identified entity that permissions are checked against. -/
structure Resource where
  type : Data
  id : Data
deriving DecidableEq, Inhabited

/-- The type name of the resource that stands for the system as a whole. -/
def globalType : String := "global"

/-- The resource that stands for the system as a whole. -/
def Resource.global : Resource := ⟨.text globalType, .text ""⟩

/-- A subject as messages name it. -/
def Subject.describe (s : Subject) : String := s.type.plain ++ " " ++ s.id.shown

/-- A resource as messages name it. -/
def Resource.describe (r : Resource) : String := r.type.plain ++ " " ++ r.id.shown

/-- An action that was refused. A batch names no single resource. -/
structure Denial where
  subject : String
  action : Data
  resourceType : Data
  resourceId : Data := .null
  wording : Option String := none
deriving DecidableEq

/-- What the refused subject is told. -/
def Denial.message (d : Denial) : String :=
  d.wording.getD <|
    d.subject ++ " is not permitted to " ++ d.action.plain ++ " " ++ d.resourceType.plain ++
      (if d.resourceId = .null then "" else " " ++ d.resourceId.shown)

/-- The refusal of an action on one resource. -/
def Denial.ofCheck (s : Subject) (action : Data) (r : Resource) (wording : Option String) :
    Denial :=
  ⟨s.describe, action, r.type, r.id, wording⟩

/-- The refusal of an action on a batch. -/
def Denial.ofBatch (s : Subject) (action type : Data) : Denial :=
  { subject := s.describe, action, resourceType := type }

/-- Why a value could not be read as the rules of a resource. -/
inductive RuleFault where
  | unknownField (name : String)
  | ownField (name : String)
  | noGrant
  | fieldNotText
  | notFields (kind : String)
  | bodyNotMap (kind : String)
  | rulesNotList (kind : String)
deriving DecidableEq

/-- The wording of a rule that could not be read. -/
def RuleFault.message : RuleFault → String
  | unknownField name => s!"Rule.__init__() got an unexpected keyword argument '{name}'"
  | ownField name => s!"Rule.__init__() got multiple values for argument '{name}'"
  | noGrant => "Rule.__init__() missing 1 required positional argument: 'grant'"
  | fieldNotText => "keywords must be strings"
  | notFields kind => s!"'{kind}' object has no attribute 'items'"
  | bodyNotMap kind => s!"'{kind}' object has no attribute 'get'"
  | rulesNotList kind => s!"'{kind}' object is not iterable"

/-- A defect of a policy that was found without a request. Names are given as they were written. -/
inductive Inconsistency where
  | undeclaredRelated (block related : Data)
  | undeclaredGrant (block name : Data)
  | undeclaredGlobalRole (block role : Data)
  | undeclaredRole (block role : Data)
  | undeclaredRelation (block relation : Data)
  | roleNotOnRelated (block role related : Data)
  | noGlobalRoleFact
  | noRoleFact (block : Data)
  | noRelationFact (block relation related : Data)
  | noAttributeFact (block attr : Data)
deriving DecidableEq

/-- The wording of one inconsistency. -/
def Inconsistency.message : Inconsistency → String
  | undeclaredRelated b u => b.plain ++ " relates to undeclared resource " ++ u.shown
  | undeclaredGrant b n => b.plain ++ " rule grants undeclared " ++ n.shown
  | undeclaredGlobalRole b r => b.plain ++ " rule uses undeclared global role " ++ r.shown
  | undeclaredRole b r => b.plain ++ " rule uses undeclared role " ++ r.shown
  | undeclaredRelation b r => b.plain ++ " rule uses undeclared relation " ++ r.shown
  | roleNotOnRelated b r u => b.plain ++ " rule uses role " ++ r.shown ++ " not declared on " ++ u.plain
  | noGlobalRoleFact => "no has_role fact for global roles"
  | noRoleFact b => "no has_role fact for " ++ b.plain
  | noRelationFact b r u => "no has_relation fact for " ++ b.plain ++ " " ++ r.plain ++ " " ++ u.plain
  | noAttributeFact b a => "no is_" ++ a.plain ++ " fact for " ++ b.plain

/-- A stored set of roles that differs from the declared one. -/
structure RoleDrift where
  enumeration : String
  stored : List Data
  declared : List Data
  resourceType : String
deriving DecidableEq

/-- The wording of one drift. -/
def RoleDrift.message (d : RoleDrift) : String :=
  d.enumeration ++ " has " ++ (Data.list d.stored).shown ++ ", policy declares " ++
    (Data.list d.declared).shown ++ " for " ++ d.resourceType

/-- Policy and configuration cannot produce what was asked for. -/
inductive PolicyFault where
  | conditionCount (grant : Data) (count : Nat)
  | relationWithoutRole (grant relation : Data)
  | declaredTwice (name : Data)
  | noResources
  | invalidRule (resource : Data) (reason : RuleFault)
  | undeclaredType (type : Data)
  | invalidPolicy (problems : List Inconsistency)
  | unreadableYaml
  | policyNotMap
  | factsNotMap
  | malformedSignature (signature : String)
  | noQuery (signature : String)
  | unsupportedSignature (signature : String)
  | unknownSqlType (name : Data)
  | noColumns
  | noRoleFact (type : Data)
  | noGlobalRoleFact
  | noRelationFact (type relation related : Data)
  | noAttributeFact (attr type : Data)
  | wrongArity (signature : String) (expected found : Nat)
  | undeclaredAction (action type : Data)
  | wrongActor (declared given : Data)
  | undeclaredRelation (relation type : Data)
  | unregisteredType (type : Data)
  | roleDrift (drifts : List RoleDrift)
  | scripted (message : String)
deriving DecidableEq

/-- The wording of a policy fault. -/
def PolicyFault.message : PolicyFault → String
  | conditionCount g n =>
    "Rule for " ++ g.shown ++ " must have exactly one of role, global_role or attribute, got " ++
      toString n
  | relationWithoutRole g r =>
    "Rule for " ++ g.shown ++ " names relation " ++ r.shown ++ " without a role"
  | declaredTwice n => "Resource " ++ n.shown ++ " is declared twice"
  | noResources => "Policy document must contain a 'resources' mapping"
  | invalidRule r reason => "Invalid rule in resource " ++ r.shown ++ ": " ++ reason.message
  | undeclaredType t => "Resource type " ++ t.shown ++ " is not declared in the policy"
  | invalidPolicy problems =>
    "Invalid policy: " ++ "; ".intercalate (problems.map Inconsistency.message)
  | unreadableYaml => "Could not parse YAML"
  | policyNotMap => "Policy YAML must be a mapping"
  | factsNotMap => "Fact YAML must be a mapping"
  | malformedSignature s => "Malformed fact signature " ++ Text.quoted s
  | noQuery s => "Fact " ++ Text.quoted s ++ " has no query"
  | unsupportedSignature s => "Unsupported fact signature " ++ Text.quoted s
  | unknownSqlType n => "Unknown SQL type " ++ n.shown ++ " in sql_types"
  | noColumns => "Fact queries given as SQL text must declare their result columns"
  | noRoleFact t => "No has_role fact configured for " ++ t.plain
  | noGlobalRoleFact => "No has_role fact configured for global roles"
  | noRelationFact t r u =>
    "No has_relation fact configured for " ++ t.plain ++ " " ++ r.plain ++ " " ++ u.plain
  | noAttributeFact a t => "No is_" ++ a.plain ++ " fact configured for " ++ t.plain
  | wrongArity s n m => s!"Fact {s} expects {n} column(s), query returns {m}"
  | undeclaredAction a t =>
    "Action " ++ a.shown ++ " is not declared for resource type " ++ t.shown
  | wrongActor a s => "Policy declares actors of type " ++ a.shown ++ ", got " ++ s.shown
  | undeclaredRelation r t => "Relation " ++ r.shown ++ " is not declared on resource " ++ t.shown
  | unregisteredType t => "No table registered for resource type " ++ t.shown
  | roleDrift ds => "Role enums out of sync: " ++ "; ".intercalate (ds.map RoleDrift.message)
  | scripted m => m

/-- A batch that cannot be planned. -/
inductive BatchFault where
  | noTargets
  | tooMany (count : Nat) (limit : Number)
  | repeatedTarget (identity : Data)
  | unequalColumns
  | unknownColumn (table column : String)
  | changesIdentity
  | setTwice (columns : List String)
  | setsNothing
  | unknownRoles (roles : List Data)
deriving DecidableEq

/-- The wording of a batch fault. -/
def BatchFault.message : BatchFault → String
  | noTargets => "Batch mutation requires at least one target"
  | tooMany n limit => s!"Batch of {n} targets exceeds max_batch_size=" ++ limit.shown
  | repeatedTarget id => "Duplicate target identity " ++ id.shown ++ " in batch"
  | unequalColumns => "Every target in a batch must set the same columns"
  | unknownColumn t c => t ++ " has no column " ++ Text.quoted c
  | changesIdentity => "A batch update cannot change the identity column"
  | setTwice cs => "Columns set both per target and for all: " ++ (Data.list (cs.map .text)).shown
  | setsNothing => "Batch update sets no columns"
  | unknownRoles rs => "invalid role(s) " ++ (Data.list rs).shown

/-- A fragment placed where it may not be. -/
inductive FragmentFault where
  | embeddedBefore (action type : Data)
  | wrongColumn (compiledFor : Data) (given : String)
  | scripted (message : String)
deriving DecidableEq

/-- The wording of a fragment fault. -/
def FragmentFault.message : FragmentFault → String
  | embeddedBefore a t =>
    "Fragment for " ++ a.shown ++ " on " ++ t.plain ++
      " was already embedded; compile a new one for each statement"
  | wrongColumn c d => "Fragment was compiled for " ++ c.shown ++ ", not " ++ Text.quoted d
  | scripted m => m

/-- Policy and data have drifted apart. -/
inductive DriftFault where
  | selfNotListed (subject : Subject) (type : Data)
  | scripted (message : String)
deriving DecidableEq

/-- The wording of a drift fault. -/
def DriftFault.message : DriftFault → String
  | selfNotListed s t =>
    s.describe ++ " does not appear exactly once in its own " ++ t.plain ++ " listing"
  | scripted m => m

/-- An argument no operation accepts. -/
inductive ArgumentFault where
  | undeclaredChoice (given : Data)
  | batchSizeNotPositive (given : Number)
  | attemptsBelowOne (given : Number)
  | negativeBackoff (given : Number)
  | foreignIdentity (column table : String)
  | registeredTwice (type : Data)
  | repeatedExtras (extras : List Data)
  | selfOfOtherType (subjectType type : Data)
  | missingVariables (names : List String)
  | portNotInteger (given : String)
deriving DecidableEq

/-- The wording of an argument fault. -/
def ArgumentFault.message : ArgumentFault → String
  | undeclaredChoice d =>
    "on_undeclared_action must be one of \x7b'raise', 'deny'\x7d, got " ++ d.shown
  | batchSizeNotPositive n => "max_batch_size must be positive, got " ++ n.shown
  | attemptsBelowOne n => "evaluator_retry_attempts must be at least 1, got " ++ n.shown
  | negativeBackoff n => "evaluator_retry_backoff must not be negative, got " ++ n.shown
  | foreignIdentity c t => c ++ " is not a column of table " ++ Text.quoted t
  | registeredTwice t => "Resource type " ++ t.shown ++ " is already registered"
  | repeatedExtras es => "Duplicate extra permissions requested: " ++ (Data.tuple es).shown
  | selfOfOtherType s t =>
    "Cannot extract " ++ s.plain ++ " subject from a listing of " ++ t.plain
  | missingVariables ns => "Environment variable(s) not set: " ++ ", ".intercalate ns
  | portNotInteger s => "DB_PORT must be an integer, got " ++ Text.quoted s

/-- A scope used out of order. -/
inductive ScopeFault where
  | inactive
  | inactiveAsync
  | transactionOpen
  | noTransaction
deriving DecidableEq

/-- The wording of a scope fault. -/
def ScopeFault.message : ScopeFault → String
  | inactive => "ConnectionScope is not active; use it as a context manager"
  | inactiveAsync => "AsyncConnectionScope is not active; use it with 'async with'"
  | transactionOpen => "ConnectionScope already has an open transaction"
  | noTransaction => "ConnectionScope has no open transaction"

/-- A call that lacks something to work with. -/
inductive UsageFault where
  | noDialect
  | checkWithoutConnection
  | explainWithoutConnection
deriving DecidableEq

/-- The wording of a usage fault. -/
def UsageFault.message : UsageFault → String
  | noDialect => "LocalPolicyEvaluator requires an engine or a dialect"
  | checkWithoutConnection => "check() needs a connection when the evaluator has no engine"
  | explainWithoutConnection =>
    "explain_access() needs a connection when the evaluator has no engine"

/-- A failed expectation: about a listing or a fragment, or that a step of the program is never come to. -/
inductive ExpectationFault where
  | notListed (missing listed : List Data)
  | unexpected (extra expected : List Data)
  | listed (present listed : List Data)
  | notInFragment (texts : List String) (sql : String)
  | unreachable
deriving DecidableEq

/-- The wording of a failed expectation. -/
def ExpectationFault.message : ExpectationFault → String
  | notListed m l =>
    "expected " ++ (Data.list m).shown ++ " in listing, got " ++ (Data.list l).shown
  | unexpected x e =>
    "unexpected " ++ (Data.list x).shown ++ " in listing (expected " ++ (Data.list e).shown ++ ")"
  | listed p l =>
    "expected " ++ (Data.list p).shown ++ " not to be listed, got " ++ (Data.list l).shown
  | notInFragment ts sql =>
    (Data.list (ts.map .text)).shown ++ " not found in fragment SQL:\n" ++ sql
  | unreachable => "unreachable"

/-- Why a database refused. -/
inductive SqlFault where
  /-- The statement does not run: no such table or column, no SQL at all, or no database. -/
  | operational
  /-- A constraint would be violated. -/
  | constraint
  /-- A value cannot be bound to its column's type. -/
  | binding
  /-- What is asked does not fit the state of the connection's transaction. -/
  | unusable
  /-- The connection's transaction can only be rolled back. -/
  | pendingRollback
  /-- The connection was closed. -/
  | closed
  /-- The connection to the database is broken. -/
  | disconnected
  /-- A statement has a value that cannot be written as a literal. -/
  | literal
  /-- A value is of a kind that no database stores. -/
  | unstorable
deriving DecidableEq

/-- A value that has the wrong shape where no cause is reported. -/
inductive ShapeFault where
  | wrongType
  | noSuchField
  | missingKey
  | badValue
  | outOfRange
  | missingItem
  | unknownMember
  | malformedAddress
  | unwritableHeader
  | unreadableBody
  | tooDeep
deriving DecidableEq

/-- Everything that can go wrong. -/
inductive Fault where
  | denied (denial : Denial)
  | policy (cause : PolicyFault)
  | unavailable (message : String)
  | dataAccess (operation : String)
  | drift (cause : DriftFault)
  | batch (cause : BatchFault)
  | fragment (cause : FragmentFault)
  | unspecified (message : String)
  | argument (cause : ArgumentFault)
  | scope (cause : ScopeFault)
  | usage (cause : UsageFault)
  | expectation (cause : ExpectationFault)
  | notOverridden (dependency : String)
  | scripted (message : String)
  | sql (cause : SqlFault)
  | shape (cause : ShapeFault)
deriving DecidableEq

/-- Refuses what cannot be looked up. -/
def Data.requireKey (d : Data) : Except Fault Unit :=
  if d.isKey then .ok () else .error (.shape .wrongType)

/-- The names of the fields of a refusal; the first three have to be given. -/
def Denial.fieldNames : List String := ["subject", "action", "resource_type", "resource_id", "message"]

/-- The refusal of somebody with the given fields. -/
def Denial.ofFields (subject : String) (fields : List (String × Data)) : Except Fault Denial :=
  if fields.any fun field => !fieldNames.contains field.1 then .error (.shape .wrongType)
  else
    match fields.lookup "subject", fields.lookup "action", fields.lookup "resource_type" with
    | some _, some action, some type =>
      .ok {
        subject, action, resourceType := type
        resourceId := (fields.lookup "resource_id").getD .null
        wording :=
          match fields.lookup "message" with
          | none | some .null => none
          | some message => some message.plain }
    | _, _, _ => .error (.shape .wrongType)

namespace Fault

/-- Whether the fault belongs to the authorization system, as opposed to its caller or database. -/
def isAuthz : Fault → Bool
  | denied _ | policy _ | unavailable _ | dataAccess _ | drift _ | batch _ | fragment _
  | unspecified _ => true
  | _ => false

/-- Whether the fault is the database's own. -/
def isSql : Fault → Bool
  | sql _ => true
  | _ => false

/-- The name under which a fault of the authorization system is logged. -/
def name : Fault → String
  | denied _ => "AuthorizationError"
  | policy _ => "PolicyCompilationError"
  | unavailable _ => "EvaluatorUnavailable"
  | dataAccess _ => "DataAccessError"
  | drift _ => "IntegrityError"
  | batch _ => "InvalidBatchError"
  | fragment _ => "FragmentReuseError"
  | _ => "AuthzError"

/-- The wording of the fault, for the faults that have one. -/
def message? : Fault → Option String
  | denied d => some d.message
  | policy c => some c.message
  | unavailable m => some m
  | dataAccess op => some s!"Database error during {op}"
  | drift c => some c.message
  | batch c => some c.message
  | fragment c => some c.message
  | unspecified m => some m
  | argument c => some c.message
  | scope c => some c.message
  | usage c => some c.message
  | expectation c => some c.message
  | notOverridden d => some s!"Override {d} via app.dependency_overrides[{d}]."
  | scripted m => some m
  | sql _ | shape _ => none

/-- The wording of the fault; empty for a fault without one. -/
def message (f : Fault) : String := f.message?.getD ""

/-- Every fault of the authorization system says what happened. -/
theorem message?_isSome_of_isAuthz {f : Fault} (h : f.isAuthz = true) : f.message?.isSome = true := by
  cases f <;> simp_all [isAuthz, message?]

/-- A fault of the database is none of the authorization system. -/
theorem isAuthz_eq_false_of_isSql {f : Fault} (h : f.isSql = true) : f.isAuthz = false := by
  cases f <;> simp_all [isAuthz, isSql]

end Fault

end RowGuard
