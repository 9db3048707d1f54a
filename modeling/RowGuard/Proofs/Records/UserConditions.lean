import RowGuard.Proofs.Condition.Quotation
import RowGuard.Proofs.Condition.Unbroken
import RowGuard.Proofs.Records.Deeds
import RowGuard.Records.Users

/-!
# Conditions on users

Who may read a user, edit the user's role or delete the user is decided by the roles of one organization, the user's,
and by those of global administrators: each of the three compiles to the same condition with other roles
(`condition_user`). It has a text for every subject named by a text, which a database reads to its end exactly if the
name has no null character (`exists_userText`), and none for a subject named by a number (`forColumn_int`).
-/

namespace RowGuard

open Outcome Sql Policy

theorem Policy.relatedInOrder_of_related {d : Derivation} {rels : List (String × List String)} (h : d.related = rels)
    (hrels : rels.length ≤ 1) : relatedInOrder d = .ok rels := by
  match rels, hrels with
  | [], _ => simp [relatedInOrder, h, Name.inOrder_string]
  | [(relation, roles)], _ => simp [relatedInOrder, h, Name.inOrder_string]

namespace Records

/-- Which organization a user belongs to. -/
def parentFact : Subquery :=
  (FactQuery.selection ⟨users.name, [select Columns.username, select Columns.org], none, false⟩).toSubquery
    [some .text, some .text]

/-- Who has which role in an organization. -/
def organizationFact : Subquery :=
  (FactQuery.selection ⟨users.name, [select Columns.username, selectRole Columns.userRole, select Columns.org], none,
    false⟩).toSubquery [some .text, some .string, some .text]

/-- Who has which global role. -/
def globalFact : Subquery :=
  (FactQuery.selection ⟨users.name, [select Columns.username, selectRole Columns.userRole],
    some (.equals Columns.org.name (some .text) (.text globalOrg)), true⟩).toSubquery [some .text, some .string]

/-- The ways of having one of some roles in an organization: a role there, or being a global administrator. -/
def organizationWays (subject : Literal) (roles : List String) : List Way :=
  [⟨"role " ++ listed roles ++ " on " ++ "Organization", .role organizationFact subject roles⟩,
    ⟨"global role " ++ listed ["admin"], .globalRole globalFact subject ["admin"]⟩]

/-- The subject has one of some roles in a user's organization, or is a global administrator. -/
def userCondition (subject : Literal) (roles : List String) : Condition :=
  [.related parentFact (Condition.ofWays (organizationWays subject roles))]

/-! ## What permissions on users compile to -/

variable {s : Subject} {a role : String} {roles names : List String} {dialect : Dialect} {hasEngine : Bool}
  {config : Option Config} {given : Config}

/-- A role in an organization comes from some roles there and from being a global administrator. -/
structure FromRoles (role : String) (roles : List String) : Prop where
  derive : organizationBlock.derive [role] =
    { resourceType := "Organization", localRoles := roles, related := [], globalRoles := ["admin"], attributes := [],
      rules := (organizationBlock.derive [role]).rules }
  nonempty : roles ≠ []

theorem waysTo_organization {start goal : Goal} {path : List Goal} {hgoal : goal ∈ policy.goals start}
    (hs : policy.isActor s = true) (hpath : path.any goal.same = false) (heq : goal = ⟨"Organization", [role]⟩)
    (hfrom : FromRoles role roles) (hnames : Name.textsInOrder roles = .ok names) :
    policy.waysTo facts s start path goal hgoal = .ok (organizationWays (facts.actorLiteral policy s) names) := by
  have hsubject : policy.subjectLiteral facts s = .ok (facts.actorLiteral policy s) :=
    subjectLiteral_eq_ok_iff.mpr ⟨hs, rfl⟩
  have hrole : facts.role policy.actorType (Name.toData "Organization") = .ok organizationFact := by decide +kernel
  have hglobal : facts.globalRole policy.actorType = .ok globalFact := by decide +kernel
  have hadmin : Name.textsInOrder ["admin"] = .ok ["admin"] := by
    rw [Name.textsInOrder_string, List.mergeSort_singleton]
  subst heq
  refine (waysTo_eq_ok_iff hpath (rfl : policy.block? "Organization" = some organizationBlock)).mpr ?_
  dsimp only
  rw [hfrom.derive]
  refine ⟨[_], [_], [], [], [], [], ?_, ?_, relatedInOrder_of_related rfl (by simp), .nil, ?_, rfl, rfl⟩
  · unfold localWays
    rw [if_neg (by simpa using hfrom.nonempty), if_neg (by decide), hnames, ok_bind, hrole, ok_bind, hsubject, ok_bind]
    rfl
  · unfold globalWays globalWay
    rw [if_neg (by simp), hadmin, ok_bind, hglobal, ok_bind, hsubject]
    rfl
  · simp [Name.inOrder_string]

/-- A permission on users that a role on their organizations gives compiles to the condition with the roles that it
comes from. -/
theorem condition_of_parent (hs : policy.isActor s = true) (hdeclared : policy.declares "User" a = true)
    (hderive : userBlock.derive [a] =
      { resourceType := "User", localRoles := [], related := [("parent", [role])], globalRoles := [], attributes := [],
        rules := (userBlock.derive [a]).rules })
    (hrole : policy.relatedGoal "Organization" [role] = ⟨"Organization", [role]⟩)
    (hfrom : FromRoles role roles) (hnames : Name.textsInOrder roles = .ok names) :
    (evaluator dialect hasEngine config).condition given s (.text a) (.text "User") =
      .ok (userCondition (facts.actorLiteral policy s) names) := by
  have hparent : facts.relation (.text "User") (.text "parent") (.text "Organization") = .ok parentFact := by
    decide +kernel
  have hnext : policy.relatedGoal "Organization" [role] ∈ policy.goals ⟨"User", [a]⟩ :=
    relatedGoal_mem_goals (by decide) _ _
  have hsingle : Name.textsInOrder [role] = .ok [role] := by
    rw [Name.textsInOrder_string, List.mergeSort_singleton]
  have hpath : ([⟨"User", [a]⟩] : List Goal).any (policy.relatedGoal "Organization" [role]).same = false := by
    rw [hrole]
    rfl
  have hadds : policy.AddsAlong facts s ⟨"User", [a]⟩ [] ⟨"User", [a]⟩ userBlock ("parent", [role])
      [⟨"role " ++ listed [role] ++ " on " ++ "parent", .related parentFact
        (Condition.ofWays (organizationWays (facts.actorLiteral policy s) names))⟩] := by
    refine ⟨"Organization", parentFact, _, hnext, rfl, hparent, waysTo_organization hs hpath hrole hfrom hnames, ?_⟩
    unfold relatedWays
    rw [if_neg (by simp [organizationWays]), hsingle]
    rfl
  have hways : policy.waysTo facts s ⟨"User", [a]⟩ [] ⟨"User", [a]⟩ (start_mem_goals policy _) =
      .ok [⟨"role " ++ listed [role] ++ " on " ++ "parent", .related parentFact
        (Condition.ofWays (organizationWays (facts.actorLiteral policy s) names))⟩] := by
    refine (waysTo_eq_ok_iff rfl (rfl : policy.block? "User" = some userBlock)).mpr ?_
    dsimp only
    rw [hderive]
    refine ⟨[], [], _, _, [], [], rfl, rfl, relatedInOrder_of_related rfl (by simp), .cons hadds .nil, ?_, rfl, rfl⟩
    simp [Name.inOrder_string]
  exact LocalEvaluator.condition_of_waysTo (e := evaluator dialect hasEngine config) hdeclared hways

/-- The roles in a user's organization that give a permission on the user. -/
def neededRoles (a : String) : List String := if a = Listing.readPermission then ["admin", "member"] else ["admin"]

theorem condition_user (hs : policy.isActor s = true) (ha : a ∈ Listing.readPermission :: userPermissions) :
    (evaluator dialect hasEngine config).condition given s (.text a) (.text "User") =
      .ok (userCondition (facts.actorLiteral policy s) (neededRoles a)) := by
  have hadmin : FromRoles "admin" ["admin"] := ⟨by decide +kernel, by decide⟩
  have hmember : FromRoles "member" ["member", "admin"] := ⟨by decide +kernel, by decide⟩
  simp only [Listing.readPermission, userPermissions, List.mem_cons, List.not_mem_nil, or_false] at ha
  rcases ha with rfl | rfl | rfl
  · refine condition_of_parent hs rfl (by decide +kernel) (by decide +kernel) hmember ?_
    rw [Name.textsInOrder_string]
    simp +decide [List.mergeSort, neededRoles]
  · exact condition_of_parent hs rfl (by decide +kernel) (by decide +kernel) hadmin
      (by rw [Name.textsInOrder_string, List.mergeSort_singleton]; rfl)
  · exact condition_of_parent hs rfl (by decide +kernel) (by decide +kernel) hadmin
      (by rw [Name.textsInOrder_string, List.mergeSort_singleton]; rfl)

/-! ## The literals -/

theorem mem_literals_userCondition {l subject : Literal} :
    l ∈ Clause.literalsOfAll (userCondition subject roles) ↔
      l = subject ∨ ∃ r ∈ "admin" :: roles, l = ⟨.text r, some .string⟩ := by
  have horganization : ∀ r, organizationFact.comparedTypeAt 1 (.text r) = some .string :=
    Subquery.comparedTypeAt_text (by rintro t ⟨⟩; rfl)
  have hglobal : ∀ r, globalFact.comparedTypeAt 1 (.text r) = some .string :=
    Subquery.comparedTypeAt_text (by rintro t ⟨⟩; rfl)
  simp only [userCondition, organizationWays, Condition.ofWays, Clause.literalsOfAll, Clause.literals,
    Clause.roleLiterals, List.map_cons, List.map_nil, horganization, hglobal, List.append_nil, List.mem_append,
    List.mem_cons, List.mem_map, List.not_mem_nil, or_false, exists_eq_or_imp]
  grind

/-! ## The text -/

theorem unbroken_facts (subject : Literal) (roles : List String) :
    ∀ q ∈ Clause.factsOfAll (userCondition subject roles), q.Unbroken := by
  have hglobal : (RowFilter.equals Columns.org.name (some .text) (.text globalOrg)).Unbroken := by
    refine ⟨by decide, ?_⟩
    rintro d t ht
    obtain rfl := Except.ok.inj ht
    cases d <;> decide
  show ∀ q ∈ [parentFact, organizationFact, globalFact], q.Unbroken
  simp only [List.forall_mem_cons]
  refine ⟨⟨⟨by decide, by decide, ?_⟩, by decide⟩, ⟨⟨by decide, by decide, ?_⟩, by decide⟩,
    ⟨⟨by decide, by decide, ?_⟩, by decide⟩, by simp⟩
  · rintro f ⟨⟩
  · rintro f ⟨⟩
  · rintro f ⟨⟩
    exact hglobal

theorem exists_forColumn_text (user a : String) :
    ∃ sql,
      (userCondition ⟨.text user, some .text⟩ (neededRoles a)).forColumn .sqlite (.text "users.username") = .ok sql ∧
      ('\x00' ∈ sql.toList ↔ '\x00' ∈ user.toList) := by
  obtain ⟨sql, hsql⟩ : ∃ sql, (userCondition ⟨.text user, some .text⟩ (neededRoles a)).forColumn .sqlite
      (.text "users.username") = .ok sql := by
    unfold neededRoles
    split <;> exact ⟨_, rfl⟩
  obtain ⟨_, _, hrender⟩ := Condition.forColumn_eq_ok_iff.mp hsql
  have hroles : ∀ r ∈ "admin" :: neededRoles a, Unbroken r := by
    unfold neededRoles
    split <;> decide
  have hliterals : (∀ l ∈ Clause.literalsOfAll (userCondition ⟨.text user, some .text⟩ (neededRoles a)),
      l.Unbroken .sqlite) ↔ Unbroken user := by
    constructor
    · intro h
      exact (Literal.unbroken_text_iff rfl user).mp (h _ (mem_literals_userCondition.mpr (.inl rfl)))
    · intro h l hl
      rcases mem_literals_userCondition.mp hl with rfl | ⟨r, hr, rfl⟩
      · exact (Literal.unbroken_text_iff rfl user).mpr h
      · exact (Literal.unbroken_text_iff rfl r).mpr (hroles r hr)
  have htarget : Unbroken (verbatim .sqlite (Data.text "users.username").plain) := by
    rw [verbatim_sqlite]
    decide
  refine ⟨sql, hsql, not_iff_not.mp ((Condition.unbroken_render_iff (unbroken_facts _ _) hrender).trans ?_)⟩
  rw [hliterals]
  exact and_iff_right fun _ => htarget

theorem isReadable_userCondition (user : String) (roles : List String) :
    Condition.isReadable (userCondition ⟨.text user, some .text⟩ roles) = true := by
  have hfilters : (Clause.factsOfAll (userCondition ⟨.text user, some .text⟩ roles)).filterMap
      Condition.filterLiteral? = [⟨.text globalOrg, some .text⟩] := rfl
  unfold Condition.isReadable Condition.literals
  rw [List.all_eq_true, hfilters]
  intro l hl
  simp only [Option.toList_none, ite_self, List.nil_append, List.mem_append, List.mem_singleton] at hl
  rcases hl with hl | rfl
  · rcases mem_literals_userCondition.mp hl with rfl | ⟨r, _, rfl⟩ <;> rfl
  · rfl

/-- A condition on users has a text for every name, which is read to its end unless the name has a null character. -/
theorem exists_userText (hasEngine : Bool) (config : Option Config) (given : Config) (user : String)
    (ha : a ∈ Listing.readPermission :: userPermissions) :
    ∃ c sql, (evaluator .sqlite hasEngine config).condition given ⟨.text "User", .text user⟩ (.text a)
        (.text "User") = .ok c ∧ c.forColumn .sqlite (.text "users.username") = .ok sql ∧ c.isReadable = true ∧
      ('\x00' ∈ sql.toList ↔ '\x00' ∈ user.toList) := by
  obtain ⟨sql, hsql, hnull⟩ := exists_forColumn_text user a
  have hcondition := @condition_user _ a .sqlite hasEngine config given (Names.text user).isActor ha
  rw [actorLiteral_eq] at hcondition
  exact ⟨_, sql, hcondition, hsql, isReadable_userCondition user _, hnull⟩

/-- The column that conditions on users are about can stand in a statement on users. -/
theorem isUsableRef_users : isUsableRef users "users.username" = true := by
  decide +kernel

/-- A whole number has no literal of the type of names. -/
theorem forColumn_int (dialect : Dialect) (n : Int) (ref : String) (roles : List String) :
    (userCondition ⟨.int n, some .text⟩ roles).forColumn dialect (.text ref) = .error (.sql .literal) := rfl

end Records

end RowGuard
