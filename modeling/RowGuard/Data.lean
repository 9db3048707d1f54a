import RowGuard.Scalar

/-!
# Plain data

The values that a document of nested lists and maps can hold. Maps keep the order of their entries.
`same`, which `==` stands for, is equality of values: it ignores the order of a map's entries and the
kind of a number. `get?` looks an entry up by its text.
-/

namespace RowGuard

/-- A value of a document. A tuple is a list of a fixed length, and a set has no item twice. -/
inductive Data where
  | scalar (value : Scalar)
  | list (items : List Data)
  | tuple (items : List Data)
  | set (items : List Data)
  | map (entries : List (Data × Data))
deriving Inhabited

namespace Data

@[match_pattern] abbrev null : Data := scalar .null
@[match_pattern] abbrev bool (b : Bool) : Data := scalar (.bool b)
@[match_pattern] abbrev int (n : Int) : Data := scalar (.int n)
@[match_pattern] abbrev real (x : Binary64) : Data := scalar (.real x)
@[match_pattern] abbrev text (s : String) : Data := scalar (.text s)

mutual

/-- Equality of documents, entry by entry in order. -/
def decEq : (a b : Data) → Decidable (a = b)
  | scalar a, scalar b =>
    if h : a = b then isTrue (by rw [h]) else isFalse (by simpa using h)
  | list a, list b | tuple a, tuple b | set a, set b =>
    match decEqItems a b with
    | isTrue h => isTrue (by rw [h])
    | isFalse h => isFalse (by simpa using h)
  | map a, map b =>
    match decEqEntries a b with
    | isTrue h => isTrue (by rw [h])
    | isFalse h => isFalse (by simpa using h)
  | scalar _, list _ | scalar _, tuple _ | scalar _, set _ | scalar _, map _
  | list _, scalar _ | list _, tuple _ | list _, set _ | list _, map _
  | tuple _, scalar _ | tuple _, list _ | tuple _, set _ | tuple _, map _
  | set _, scalar _ | set _, list _ | set _, tuple _ | set _, map _
  | map _, scalar _ | map _, list _ | map _, tuple _ | map _, set _ => isFalse (by simp)

/-- Equality of the items of two lists. -/
def decEqItems : (a b : List Data) → Decidable (a = b)
  | [], [] => isTrue rfl
  | [], _ :: _ | _ :: _, [] => isFalse (by simp)
  | x :: xs, y :: ys =>
    match decEq x y, decEqItems xs ys with
    | isTrue h, isTrue h' => isTrue (by rw [h, h'])
    | isFalse h, _ => isFalse (by simp [h])
    | _, isFalse h => isFalse (by simp [h])

/-- Equality of the entries of two maps. -/
def decEqEntries : (a b : List (Data × Data)) → Decidable (a = b)
  | [], [] => isTrue rfl
  | [], _ :: _ | _ :: _, [] => isFalse (by simp)
  | (x, u) :: xs, (y, v) :: ys =>
    match decEq x y, decEq u v, decEqEntries xs ys with
    | isTrue h, isTrue h', isTrue h'' => isTrue (by rw [h, h', h''])
    | isFalse h, _, _ => isFalse (by simp [h])
    | _, isFalse h, _ => isFalse (by simp [h])
    | _, _, isFalse h => isFalse (by simp [h])

end

instance : DecidableEq Data := decEq

/-! ## Equality of values -/

mutual

/-- Whether two values are equal as values: numbers by the number they denote, sets and maps without
regard to order. -/
def same : Data → Data → Bool
  | scalar a, scalar b => a.same b
  | list a, list b | tuple a, tuple b => sameItems a b
  | set a, set b => a.length == b.length && isWithin a b
  | map a, map b => a.length == b.length && sameEntries a b
  | _, _ => false

/-- Whether two lists have the same items in order. -/
def sameItems : List Data → List Data → Bool
  | [], [] => true
  | x :: xs, y :: ys => same x y && sameItems xs ys
  | _, _ => false

/-- Whether every item of the first list is one of the second. -/
def isWithin : List Data → List Data → Bool
  | [], _ => true
  | x :: xs, b => b.any (fun y => same x y) && isWithin xs b

/-- Whether every entry of the first map is an entry of the second. -/
def sameEntries : List (Data × Data) → List (Data × Data) → Bool
  | [], _ => true
  | (x, u) :: xs, b => b.any (fun entry => same x entry.1 && same u entry.2) && sameEntries xs b

end

instance : BEq Data := ⟨same⟩

mutual

theorem same_self : (d : Data) → d.same d = true
  | scalar s => by simpa [same] using s.same_self
  | list items | tuple items => by simpa [same] using sameItems_self items
  | set items => by simpa [same] using isWithin_of_subset items items (fun _ h => h)
  | map entries => by simpa [same] using sameEntries_of_subset entries entries (fun _ h => h)

private theorem sameItems_self : (items : List Data) → sameItems items items = true
  | [] => by simp [sameItems]
  | x :: xs => by simp [sameItems, same_self x, sameItems_self xs]

private theorem isWithin_of_subset : (xs b : List Data) → (∀ x ∈ xs, x ∈ b) → isWithin xs b = true
  | [], _, _ => by simp [isWithin]
  | x :: xs, b, h => by
    simp only [isWithin, Bool.and_eq_true, List.any_eq_true]
    exact ⟨⟨x, h x (by simp), same_self x⟩,
      isWithin_of_subset xs b fun y hy => h y (by simp [hy])⟩

private theorem sameEntries_of_subset :
    (xs b : List (Data × Data)) → (∀ e ∈ xs, e ∈ b) → sameEntries xs b = true
  | [], _, _ => by simp [sameEntries]
  | (x, u) :: xs, b, h => by
    simp only [sameEntries, Bool.and_eq_true, List.any_eq_true]
    exact ⟨⟨(x, u), h (x, u) (by simp), same_self x, same_self u⟩,
      sameEntries_of_subset xs b fun e he => h e (by simp [he])⟩

end

instance : ReflBEq Data := ⟨fun {d} => same_self d⟩

/-- A value equals a text only when it is that text. -/
theorem beq_text (d : Data) (s : String) : (d == text s) = decide (d = text s) := by
  have h : (d == text s) = d.same (text s) := rfl
  rw [h, Bool.eq_iff_iff]
  cases d with
  | scalar a => cases a <;> simp [same, Scalar.same, Scalar.number?, Scalar.moment?]
  | list _ | tuple _ | set _ | map _ => simp [same]

/-- A text equals no other value. -/
theorem text_beq (s : String) (d : Data) : (text s == d) = decide (d = text s) := by
  have h : (text s == d) = (text s).same d := rfl
  rw [h, Bool.eq_iff_iff]
  cases d with
  | scalar a =>
    cases a <;> simp [same, Scalar.same, Scalar.number?, Scalar.moment?]
    exact eq_comm
  | list _ | tuple _ | set _ | map _ => simp [same]

/-- Texts are equal as values only when they are equal. -/
@[simp]
theorem text_beq_text (s t : String) : (text s == text t) = decide (s = t) := by
  simp [beq_text]

/-- Null, zero, false, the empty text and empty containers count as false. -/
def truthy : Data → Bool
  | scalar s => s.truthy
  | list items | tuple items | set items => !items.isEmpty
  | map entries => !entries.isEmpty

/-! ## Text -/

mutual

/-- The value as messages show it. -/
def shown : Data → String
  | scalar s => s.shown
  | list items => "[" ++ ", ".intercalate (shownItems items) ++ "]"
  | tuple [item] => "(" ++ shown item ++ ",)"
  | tuple items => "(" ++ ", ".intercalate (shownItems items) ++ ")"
  | set [] => "set()"
  | set items => "\x7b" ++ ", ".intercalate (shownItems items) ++ "\x7d"
  | map entries => "\x7b" ++ ", ".intercalate (shownEntries entries) ++ "\x7d"

/-- The items of a list as messages show them. -/
def shownItems : List Data → List String
  | [] => []
  | x :: xs => shown x :: shownItems xs

/-- The entries of a map as messages show them. -/
def shownEntries : List (Data × Data) → List String
  | [] => []
  | (x, u) :: xs => (shown x ++ ": " ++ shown u) :: shownEntries xs

end

/-- The value as plain text. -/
def plain : Data → String
  | scalar s => s.plain
  | d => d.shown

/-- The name of the value's kind. -/
def kind : Data → String
  | scalar s => s.kind
  | list _ => "list"
  | tuple _ => "tuple"
  | set _ => "set"
  | map _ => "dict"

/-! ## Parts -/

/-- The text held, if the value is one. -/
def text? : Data → Option String
  | text s => some s
  | _ => none

/-- The scalar held, if the value is one. -/
def scalar? : Data → Option Scalar
  | scalar s => some s
  | _ => none

/-- The number held, if the value is one. -/
def number? : Data → Option Number
  | scalar s => s.number?
  | _ => none

/-- The value under a key given as text; the last entry counts. -/
def lookup (key : String) (entries : List (Data × Data)) : Option Data :=
  (entries.reverse.find? fun entry => entry.1 == text key).map (·.2)

/-- The value under a key given as text, if the value is a map. -/
def get? (key : String) : Data → Option Data
  | map entries => lookup key entries
  | _ => none

mutual

/-- A value that can be a key: a scalar or a tuple of such values. -/
def isKey : Data → Bool
  | scalar _ => true
  | tuple items => allKeys items
  | list _ | set _ | map _ => false

/-- Whether all values can be keys. -/
def allKeys : List Data → Bool
  | [] => true
  | x :: xs => isKey x && allKeys xs

end

/-- The items a value offers one by one: those of a list, the keys of a map, the characters of a
text and the numbers of bytes. -/
def items? : Data → Option (List Data)
  | list items | tuple items | set items => some items
  | map entries => some (entries.map (·.1))
  | scalar (.text s) => some (s.toList.map fun c => text (String.singleton c))
  | scalar (.bytes bs) => some (bs.map fun b => int b.toNat)
  | scalar _ => none

/-! ## Order -/

mutual

/-- Whether one of two values comes before the other or they are equal: scalars of one order do, and
lists as their first items that differ do. -/
def comparable : Data → Data → Bool
  | scalar a, scalar b => a.order?.isSome && decide (a.order? = b.order?)
  | list a, list b | tuple a, tuple b => comparableItems a b
  | _, _ => false

/-- Whether two lists can be put in order by their items. -/
def comparableItems : List Data → List Data → Bool
  | x :: xs, y :: ys => if same x y then comparableItems xs ys else comparable x y
  | _, _ => true

end

mutual

/-- Whether a value comes no later than another one it can be compared with. -/
def atMost : Data → Data → Bool
  | scalar a, scalar b => a.atMost b
  | list a, list b | tuple a, tuple b => atMostItems a b
  | _, _ => false

/-- Whether a list comes no later than another, by the first items that differ. -/
def atMostItems : List Data → List Data → Bool
  | [], _ => true
  | _ :: _, [] => false
  | x :: xs, y :: ys => if same x y then atMostItems xs ys else atMost x y

end

/-- Whether any two of some values can be compared. -/
def allComparable : List Data → Bool
  | [] => true
  | x :: xs => xs.all (comparable x) && allComparable xs

/-- The values in ascending order, if any two of them can be compared. -/
def sorted? (items : List Data) : Option (List Data) :=
  if allComparable items then some (items.mergeSort atMost) else none

/-! ## Building -/

/-- A map whose keys are texts. -/
def record (fields : List (String × Data)) : Data :=
  map (fields.map fun (key, value) => (text key, value))

/-- A list of texts. -/
def texts (items : List String) : Data := list (items.map text)

/-- Adds an entry; an entry with the same key is replaced in its place. -/
def insert (key value : Data) : List (Data × Data) → List (Data × Data)
  | [] => [(key, value)]
  | (k, v) :: rest =>
    if k.same key then (k, value) :: rest else (k, v) :: insert key value rest

/-- Adds an item to those of a set. -/
def insertItem (item : Data) (items : List Data) : List Data :=
  if items.any item.same then items else items ++ [item]

end Data

end RowGuard
