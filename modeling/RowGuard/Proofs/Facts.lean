import RowGuard.Proofs.Evaluator.Queries
import RowGuard.Proofs.Policy.Reporting

/-!
# The facts of a document

A document maps signatures to queries. A signature is a name and arguments in round brackets; blanks may stand around
both and around every argument, and they say nothing (`Signature.parse?_eq_some_iff`). What it names is told by its name
and by the number of its arguments (`Signature.slot?_eq_some_iff`). Many texts name one slot of the fact book: they
differ in blanks, in what follows the colons of their types, or in a type that is not part of what is named.

Every entry puts its query in the slot that it names, and the query that was there before is nowhere in the book
afterwards. As many facts are kept as slots are named, which are all of them exactly if no two entries name one slot
(`FactBook.facts_kept_iff`).
-/

namespace RowGuard

open Outcome

/-! ## Signatures -/

namespace Signature

open Text

theorem splitOn_eq (separator : Char) (cs : List Char) : splitOn separator cs = cs.splitOn separator := by
  induction cs with
  | nil => rfl
  | cons c rest ih =>
    rw [splitOn, List.splitOn_cons_eq_if_modifyHead, ih]
    by_cases hc : c = separator
    · simp [hc]
    · cases hparts : rest.splitOn separator with
      | nil => exact absurd hparts (List.splitOn_ne_nil separator rest)
      | cons part parts => simp [hc]

/-- A blank is no word character. -/
theorem isBlank_of_isWordChar {c : Char} (h : isWordChar c = true) : isBlank c = false := by
  have hblank : ∀ n ∈ blankCodes, isWordChar (Char.ofNat n) = false := by decide +kernel
  by_contra hc
  have hmem : c.toNat ∈ blankCodes := by simpa [isBlank] using hc
  have hword := hblank c.toNat hmem
  rw [Char.ofNat_toNat, h] at hword
  cases hword

theorem stripStart_append {blanks cs : List Char} (h : ∀ c ∈ blanks, isBlank c = true) :
    stripStart (blanks ++ cs) = stripStart cs := List.dropWhile_append_of_pos h

/-- A text is what it begins with up to some character, and the rest. -/
theorem eq_takeWhile_append {p : Char → Bool} {cs rest : List Char} (h : cs.dropWhile p = rest) :
    cs = cs.takeWhile p ++ rest := by
  rw [← h, List.takeWhile_append_dropWhile]

/-- How a signature may be written: blanks, its name, blanks, what stands in the brackets, and blanks. The arguments
are what stands in the brackets between commas, without the blanks around it. -/
inductive Written (text : String) : Signature → Prop where
  | mk (before name between inside after : List Char)
      (hblank : ∀ c ∈ before ++ between ++ after, isBlank c = true)
      (hname : name ≠ []) (hword : ∀ c ∈ name, isWordChar c = true) (hinside : ')' ∉ inside)
      (htext : text.toList = before ++ (name ++ (between ++ '(' :: (inside ++ ')' :: after)))) :
      Written text ⟨String.ofList name, (inside.splitOn ',').map fun part => String.ofList (stripChars part)⟩

/-- The name of a signature ends where a blank or the bracket stands. -/
theorem takeWhile_isWordChar {name between : List Char} (hword : ∀ c ∈ name, isWordChar c = true)
    (hbetween : ∀ c ∈ between, isBlank c = true) (rest : List Char) :
    (name ++ (between ++ '(' :: rest)).takeWhile isWordChar = name ∧
      (name ++ (between ++ '(' :: rest)).dropWhile isWordChar = between ++ '(' :: rest := by
  rw [List.takeWhile_append_of_pos hword, List.dropWhile_append_of_pos hword]
  cases between with
  | nil => simp [show isWordChar '(' = false by decide]
  | cons c between =>
    have hc : isWordChar c = false := by
      by_contra h
      have hblank := hbetween c List.mem_cons_self
      rw [isBlank_of_isWordChar (Bool.eq_true_of_not_eq_false h)] at hblank
      cases hblank
    simp [hc]

theorem parse?_of_written {text : String} {s : Signature} (h : Written text s) : parse? text = some s := by
  obtain ⟨before, name, between, inside, after, hblank, hname, hword, hinside, htext⟩ := h
  simp only [List.forall_mem_append] at hblank
  obtain ⟨⟨hbefore, hbetween⟩, hafter⟩ := hblank
  obtain ⟨htake, hdrop⟩ := takeWhile_isWordChar hword hbetween (inside ++ ')' :: after)
  have hstart : stripStart text.toList = name ++ (between ++ '(' :: (inside ++ ')' :: after)) := by
    rw [htext, stripStart_append hbefore]
    obtain ⟨c, rest, rfl⟩ := List.exists_cons_of_ne_nil hname
    simp [stripStart, isBlank_of_isWordChar (hword c List.mem_cons_self)]
  have hopen : stripStart (between ++ '(' :: (inside ++ ')' :: after)) = '(' :: (inside ++ ')' :: after) := by
    rw [stripStart_append hbetween]
    simp [stripStart, show isBlank '(' = false by decide]
  have hother : ∀ c ∈ inside, (c != ')') = true := by
    intro c hc
    rw [bne_iff_ne]
    exact fun heq => hinside (heq ▸ hc)
  have hclose : (inside ++ ')' :: after).dropWhile (· != ')') = ')' :: after := by
    rw [List.dropWhile_append_of_pos hother]
    simp
  have hinner : (inside ++ ')' :: after).takeWhile (· != ')') = inside := by
    rw [List.takeWhile_append_of_pos hother]
    simp
  have hempty : name.isEmpty = false := by simpa using hname
  have hrest : after.all isBlank = true := List.all_eq_true.mpr hafter
  simp only [parse?, hstart, htake, hdrop, hopen, hempty, hclose, hinner, hrest, if_true, splitOn_eq]

theorem written_of_parse? {text : String} {s : Signature} (h : parse? text = some s) : Written text s := by
  unfold parse? at h
  dsimp only at h
  split at h
  case h_2 => cases h
  case h_1 rest hname hopen =>
    split at h
    case h_2 => cases h
    case h_1 after hclose =>
      split at h
      case isFalse => cases h
      case isTrue hafter =>
        obtain rfl := Option.some.inj h
        rw [splitOn_eq]
        refine .mk (text.toList.takeWhile isBlank) ((stripStart text.toList).takeWhile isWordChar)
          (((stripStart text.toList).dropWhile isWordChar).takeWhile isBlank) (rest.takeWhile (· != ')')) after
          ?_ ?_ ?_ ?_ ?_
        · simp only [List.forall_mem_append]
          exact ⟨⟨fun _ => List.mem_takeWhile_imp, fun _ => List.mem_takeWhile_imp⟩, List.all_eq_true.mp hafter⟩
        · simpa using hname
        · exact fun _ => List.mem_takeWhile_imp
        · exact fun hmem => absurd (List.mem_takeWhile_imp hmem) (by simp)
        · rw [← eq_takeWhile_append hclose, ← eq_takeWhile_append hopen, List.takeWhile_append_dropWhile]
          exact List.takeWhile_append_dropWhile.symm

/-- The texts that are read are those of signatures, each as the signature it is written for. -/
theorem parse?_eq_some_iff {text : String} {s : Signature} : parse? text = some s ↔ Written text s :=
  ⟨written_of_parse?, parse?_of_written⟩

/-- What a signature names. The type of the actor and the second argument of a role are not part of it. -/
inductive Names : Signature → Slot → Prop where
  | role (actor role type : String) : Names ⟨"has_role", [actor, role, type]⟩ (.role (entity type))
  | globalRole (actor role : String) : Names ⟨"has_role", [actor, role]⟩ .globalRole
  | relation (type rel related : String) :
      Names ⟨"has_relation", [type, rel, related]⟩ (.relation (entity type) rel (entity related))
  | hasAttribute (name type : String) : Names ⟨"is_" ++ name, [type]⟩ (.hasAttribute name (entity type))

/-- The slot of a signature is the one that it names; what names none has no slot. -/
theorem slot?_eq_some_iff {s : Signature} {slot : Slot} : s.slot? = some slot ↔ s.Names slot := by
  constructor
  · intro h
    obtain ⟨name, args⟩ := s
    unfold slot? at h
    split at h
    case h_1 actor role type hname hargs =>
      obtain rfl : name = "has_role" := hname
      obtain rfl : args = [actor, role, type] := hargs
      obtain rfl := Option.some.inj h
      exact .role actor role type
    case h_2 actor role hname hargs =>
      obtain rfl : name = "has_role" := hname
      obtain rfl : args = [actor, role] := hargs
      obtain rfl := Option.some.inj h
      exact .globalRole actor role
    case h_3 type rel related hname hargs =>
      obtain rfl : name = "has_relation" := hname
      obtain rfl : args = [type, rel, related] := hargs
      obtain rfl := Option.some.inj h
      exact .relation type rel related
    case h_4 type hargs =>
      obtain rfl : args = [type] := hargs
      dsimp only at h
      split at h
      case h_1 attr hattr =>
        obtain rfl : name = "is_" ++ String.ofList attr := by
          rw [String.ext_iff, hattr]
          simp
        obtain rfl := Option.some.inj h
        exact .hasAttribute (String.ofList attr) type
      case h_2 => cases h
    case h_5 => cases h
  · rintro (⟨actor, role, type⟩ | ⟨actor, role⟩ | ⟨type, rel, related⟩ | ⟨name, type⟩)
    · rfl
    · rfl
    · rfl
    · simp [slot?]

example : (parse? " has_role ( Robot:_ ,String, Book : _ ) ").bind slot? = some (.role "Book") := by cbv

end Signature

/-! ## Slots -/

theorem length_assign {κ ε : Type} [BEq κ] (key : κ) (value : ε) (l : List (κ × ε)) :
    (assign key value l).length = l.length + if (l.lookup key).isSome then 0 else 1 := by
  induction l with
  | nil => rfl
  | cons entry rest ih =>
    obtain ⟨k, v⟩ := entry
    cases h : key == k with
    | true => simp [assign, List.lookup_cons, h]
    | false =>
      simp only [assign, List.lookup_cons, h, if_false, Bool.false_eq_true, List.length_cons, ih]
      omega

namespace FactBook

/-- Filling a slot adds a query if the slot was empty. -/
theorem length_queries_fill (b : FactBook) (q : FactQuery) (slot : Slot) :
    (b.fill q slot).queries.length = b.queries.length + if (b.atSlot? slot).isSome then 0 else 1 := by
  cases slot with
  | globalRole => cases h : b.globalRoles <;> simp [fill, atSlot?, queries, h]; omega
  | role type =>
    simp only [fill, atSlot?, queries, List.length_append, List.length_map, length_assign]
    ac_rfl
  | relation type rel related =>
    simp only [fill, atSlot?, queries, List.length_append, List.length_map, length_assign]
    ac_rfl
  | hasAttribute name type =>
    simp only [fill, atSlot?, queries, List.length_append, List.length_map, length_assign]
    ac_rfl

/-- The book after the facts have been put in their slots, one after the other. -/
def filled (facts : List (FactQuery × Slot)) : FactBook := facts.foldl (fun b fact => b.fill fact.1 fact.2) {}

/-- The query that was last put in a slot. -/
def lastFor (facts : List (FactQuery × Slot)) (slot : Slot) : Option FactQuery :=
  (facts.reverse.find? fun fact => fact.2 = slot).map (·.1)

section Filling

variable {facts : List (FactQuery × Slot)} {slot : Slot}

theorem filled_concat (facts : List (FactQuery × Slot)) (fact : FactQuery × Slot) :
    filled (facts ++ [fact]) = (filled facts).fill fact.1 fact.2 := List.foldl_concat ..

theorem lastFor_concat (facts : List (FactQuery × Slot)) (fact : FactQuery × Slot) (slot : Slot) :
    lastFor (facts ++ [fact]) slot = if slot = fact.2 then some fact.1 else lastFor facts slot := by
  unfold lastFor
  rw [List.reverse_concat, List.find?_cons]
  by_cases h : slot = fact.2
  · simp [h]
  · simp [h, Ne.symm h]

theorem atSlot?_filled (facts : List (FactQuery × Slot)) (slot : Slot) :
    (filled facts).atSlot? slot = lastFor facts slot := by
  induction facts using List.reverseRecOn with
  | nil => cases slot <;> rfl
  | append_singleton facts fact ih => rw [filled_concat, lastFor_concat, atSlot?_fill, ih]

theorem isSome_lastFor_iff : (lastFor facts slot).isSome = true ↔ slot ∈ facts.map (·.2) := by
  simp [lastFor]

theorem mem_of_lastFor {q : FactQuery} (h : lastFor facts slot = some q) : (q, slot) ∈ facts := by
  obtain ⟨fact, hfound, rfl⟩ := Option.map_eq_some_iff.mp h
  obtain rfl : fact.2 = slot := by simpa using List.find?_some hfound
  exact List.mem_reverse.mp (List.mem_of_find?_eq_some hfound)

/-- As many facts are kept as slots are named. -/
theorem length_queries_filled (facts : List (FactQuery × Slot)) :
    (filled facts).queries.length = (facts.map (·.2)).toFinset.card := by
  induction facts using List.reverseRecOn with
  | nil => rfl
  | append_singleton facts fact ih =>
    rw [filled_concat, length_queries_fill, atSlot?_filled, ih]
    have hslots : ((facts ++ [fact]).map (·.2)).toFinset = insert fact.2 (facts.map (·.2)).toFinset := by
      ext slot
      simp
    rw [hslots, Finset.card_insert_eq_ite]
    simp only [isSome_lastFor_iff, List.mem_toFinset]
    split <;> rfl

/-- Where no slot is named twice, every fact is found in its slot. -/
theorem lastFor_of_nodup (h : (facts.map (·.2)).Nodup) {fact : FactQuery × Slot} (hfact : fact ∈ facts) :
    lastFor facts fact.2 = some fact.1 := by
  obtain ⟨q, hq⟩ := Option.isSome_iff_exists.mp (isSome_lastFor_iff.mpr (List.mem_map_of_mem hfact))
  rw [hq, ← List.inj_on_of_nodup_map h (mem_of_lastFor hq) hfact rfl]

end Filling

/-! ## Reading a document -/

/-- The body of an entry has a query and columns. -/
inductive Queries : Data → FactQuery → Prop where
  | mk (fields : List (Data × Data)) (query value : Data) (columns : List Data)
      (hquery : Data.lookup "query" fields = some query) (hvalue : Data.lookup "columns" fields = some value)
      (hcolumns : value.items? = some columns) (hnonempty : columns ≠ []) :
      Queries (.map fields) (.sql (Text.strip query.plain) columns)

/-- The entry writes a fact: its key is a signature that names the slot, and its body has the query. -/
inductive Gives : Data × Data → FactQuery × Slot → Prop where
  | mk (text : String) (s : Signature) (slot : Slot) (body : Data) (q : FactQuery) (hwritten : s.Written text)
      (hnames : s.Names slot) (hqueries : Queries body q) : Gives (.text text, body) (q, slot)

theorem bodyItems_eq_ok_cons_iff {field : String} {fields : List (Data × Data)} {items : List Data}
    (hnonempty : items ≠ []) : Policy.bodyItems field fields = .ok items ↔
      ∃ value, Data.lookup field fields = some value ∧ value.items? = some items := by
  unfold Policy.bodyItems
  rcases Data.lookup field fields with _ | value
  · simp [eq_comm, hnonempty]
  · rcases hitems : value.items? with _ | found <;> simp [hitems]

theorem readQuery_eq_ok_iff {text : String} {body : Data} {q : FactQuery} :
    readQuery text body = .ok q ↔ Queries body q := by
  constructor
  · intro h
    by_cases hbody : ∃ fields query, body = .map fields ∧ Data.lookup "query" fields = some query
    · obtain ⟨fields, query, rfl, hquery⟩ := hbody
      rw [readQuery_map hquery] at h
      obtain ⟨columns, hcolumns, h⟩ := bind_eq_ok_iff.mp h
      cases columns with
      | nil => cases h
      | cons column rest =>
        obtain rfl := Except.ok.inj h
        obtain ⟨value, hvalue, hitems⟩ := (bodyItems_eq_ok_cons_iff (List.cons_ne_nil column rest)).mp hcolumns
        exact .mk fields query value (column :: rest) hquery hvalue hitems (List.cons_ne_nil column rest)
    · rw [readQuery_of_no_query fun fields query hmap hquery => hbody ⟨fields, query, hmap, hquery⟩] at h
      cases h
  · rintro ⟨fields, query, value, columns, hquery, hvalue, hcolumns, hnonempty⟩
    rw [readQuery_map hquery, (bodyItems_eq_ok_cons_iff hnonempty).mpr ⟨value, hvalue, hcolumns⟩, ok_bind]
    simp [hnonempty]

theorem factOf_eq_ok_iff {entry : Data × Data} {fact : FactQuery × Slot} :
    factOf entry = .ok fact ↔ Gives entry fact := by
  constructor
  · intro h
    obtain ⟨key, body⟩ := entry
    unfold factOf at h
    split at h
    case h_1 text hkey =>
      obtain rfl : key = .text text := hkey
      split at h
      case h_1 => cases h
      case h_2 s hparse =>
        obtain ⟨q, hq, h⟩ := bind_eq_ok_iff.mp h
        split at h
        case h_1 => cases h
        case h_2 slot hslot =>
          obtain rfl := Except.ok.inj h
          exact .mk text s slot body q (Signature.parse?_eq_some_iff.mp hparse) (Signature.slot?_eq_some_iff.mp hslot)
            (readQuery_eq_ok_iff.mp hq)
    case h_2 => cases h
  · rintro ⟨text, s, slot, body, q, hwritten, hnames, hqueries⟩
    simp only [factOf, Signature.parse?_eq_some_iff.mpr hwritten, readQuery_eq_ok_iff.mpr hqueries, ok_bind,
      Signature.slot?_eq_some_iff.mpr hnames]

theorem section?_eq_ok {field : String} {document entries : List (Data × Data)}
    (h : section? field document = .ok entries) : entries = entriesOf field document := by
  by_cases hnone : NoSection field document
  · rw [section?_of_noSection hnone] at h
    cases h
  · rw [section?_of_not hnone] at h
    exact (Except.ok.inj h).symm

/-- A document that is read has put its facts in their slots, one after the other. -/
theorem ofData_eq_ok {document : List (Data × Data)} {b : FactBook} (h : ofData (.map document) = .ok b) :
    ∃ facts types, List.Forall₂ Gives (entriesOf "facts" document) facts ∧
      b = { filled facts with sqlTypes := types } := by
  simp only [ofData, foldlM_readFact] at h
  obtain ⟨entries, hentries, h⟩ := bind_eq_ok_iff.mp h
  obtain ⟨book, hbook, h⟩ := bind_eq_ok_iff.mp h
  obtain ⟨_, _, h⟩ := bind_eq_ok_iff.mp h
  obtain ⟨types, _, h⟩ := bind_eq_ok_iff.mp h
  obtain rfl := Except.ok.inj h
  obtain ⟨facts, hfacts, rfl⟩ := map_eq_ok_iff.mp hbook
  rw [section?_eq_ok hentries] at hfacts
  exact ⟨facts, types, (mapM_eq_ok_iff.mp hfacts).imp fun _ _ => factOf_eq_ok_iff.mp, rfl⟩

/-- What is kept of the facts of a document that is read. A slot holds the query and the columns of the last entry that
names it, and nothing else is kept, so that as many facts are kept as slots are named. These are all the facts, each in
its slot, exactly if no two entries name one slot. -/
theorem facts_kept_iff {document : List (Data × Data)} {b : FactBook} (h : ofData (.map document) = .ok b) :
    ∃ facts, List.Forall₂ Gives (entriesOf "facts" document) facts ∧
      (∀ slot, b.atSlot? slot = lastFor facts slot) ∧
      b.queries.length = (facts.map (·.2)).toFinset.card ∧
      ((∀ fact ∈ facts, b.atSlot? fact.2 = some fact.1) ∧
        b.queries.length = (entriesOf "facts" document).length ↔ (facts.map (·.2)).Nodup) := by
  obtain ⟨facts, types, hgives, rfl⟩ := ofData_eq_ok h
  have hslots : ∀ slot, atSlot? { filled facts with sqlTypes := types } slot = lastFor facts slot := by
    intro slot
    rw [← atSlot?_filled]
    cases slot <;> rfl
  have hcount : (queries { filled facts with sqlTypes := types }).length = (facts.map (·.2)).toFinset.card :=
    length_queries_filled facts
  refine ⟨facts, hgives, hslots, hcount, ?_⟩
  rw [hcount, hgives.length_eq]
  constructor
  · rintro ⟨-, hall⟩
    rw [← List.length_map (f := (·.2)), List.card_toFinset] at hall
    exact List.dedup_eq_self.mp ((List.dedup_sublist _).eq_of_length hall)
  · intro hnodup
    refine ⟨fun fact hfact => ?_, ?_⟩
    · rw [hslots]
      exact lastFor_of_nodup hnodup hfact
    · rw [List.toFinset_card_of_nodup hnodup, List.length_map]

end FactBook

/-! ## Books in stacks -/

namespace Stacks

open FactBook

/-- An entry with the rows of a table as its query. -/
def entry (signature table : String) (columns : List String) : Data × Data :=
  (.text signature, .map [(.text "query", .text ("SELECT * FROM " ++ table)), (.text "columns", .texts columns)])

/-- The query of such an entry. -/
def query (table : String) (columns : List String) : FactQuery :=
  .sql ("SELECT * FROM " ++ table) (columns.map .text)

/-- A document with the given facts. -/
def document (facts : List (Data × Data)) : List (Data × Data) := [(.text "facts", .map facts)]

/-- One fact of each kind. -/
def entries : List (Data × Data) := [
  entry "has_role(User:_, String:_, Book:_)" "readers" ["user", "role", "book"],
  entry "has_role(User:_, String:_)" "staff" ["user", "role"],
  entry " has_relation ( Book:_ ,shelf, Shelf:_ ) " "places" ["book", "shelf"],
  entry "is_public(Book:_)" "public_books" ["book"]]

/-- What the entries say. -/
def facts : List (FactQuery × Slot) := [
  (query "readers" ["user", "role", "book"], .role "Book"),
  (query "staff" ["user", "role"], .globalRole),
  (query "places" ["book", "shelf"], .relation "Book" "shelf" "Shelf"),
  (query "public_books" ["book"], .hasAttribute "public" "Book")]

theorem factsOf_entries : (entriesOf "facts" (document entries)).mapM factOf = .ok facts := by cbv

theorem facts_kept_iff_stacks :
    ∃ b, ofData (.map (document entries)) = .ok b ∧ (∀ fact ∈ facts, b.atSlot? fact.2 = some fact.1) ∧
      b.queries.length = (entriesOf "facts" (document entries)).length := by
  obtain ⟨b, hb⟩ : ∃ b, ofData (.map (document entries)) = .ok b := exists_of_isOk (by cbv)
  obtain ⟨found, hgives, -, -, hkept⟩ := facts_kept_iff hb
  have hfound : (entriesOf "facts" (document entries)).mapM factOf = .ok found :=
    mapM_eq_ok_iff.mpr (hgives.imp fun _ _ => factOf_eq_ok_iff.mpr)
  obtain rfl : facts = found := Except.ok.inj (factsOf_entries.symm.trans hfound)
  exact ⟨b, hb, hkept.mpr (by decide)⟩

/-- The readers among the users, and those among the robots. -/
def usersAndRobots : List (Data × Data) := [
  entry "has_role(User:_, String:_, Book:_)" "readers" ["user", "role", "book"],
  entry "has_role(Robot:_, String:_, Book:_)" "scanners" ["robot", "role", "book"]]

/-- Of two entries for different actors only the second is kept. -/
theorem users_overwritten :
    ∃ b, ofData (.map (document usersAndRobots)) = .ok b ∧
      (entriesOf "facts" (document usersAndRobots)).length = 2 ∧ b.queries.length = 1 ∧
      Gives usersAndRobots[0] (query "readers" ["user", "role", "book"], .role "Book") ∧
      b.atSlot? (.role "Book" : Slot) = some (query "scanners" ["robot", "role", "book"]) := by
  refine ⟨{ roles := [(.text "Book", query "scanners" ["robot", "role", "book"])] }, by cbv, by cbv, by cbv, ?_, by cbv⟩
  exact factOf_eq_ok_iff.mp (by cbv)

end Stacks

end RowGuard
