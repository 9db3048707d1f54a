import RowGuard.Sql.Literal

/-!
# Stored values and their comparison

A database stores nulls, numbers and texts. Before two values are compared, or one is stored, the
affinity of the columns involved may turn a text into the number it spells, or a number into its
text. Null equals nothing. `Operand.eq_of_same_affinity` is the common case: values of columns of one
affinity are equal exactly when they denote the same number or are the same text.
-/

namespace RowGuard

/-- A stored value. -/
inductive Value where
  | null
  | int (n : Int)
  | real (x : Binary64)
  | text (s : String)
deriving DecidableEq, Inhabited

/-- What a column prefers to store; a bare value prefers nothing. -/
inductive Affinity where
  | text
  | numeric
  | none
deriving DecidableEq, Inhabited

/-- The affinity of a column of the given type. -/
def ColumnType.affinity : ColumnType → Affinity
  | .text | .string | .uuid | .enumeration _ _ => .text
  | .integer | .bigInteger | .numeric | .boolean => .numeric

namespace Value

/-- The number denoted, if the value is one. -/
def number? : Value → Option Number
  | int n => some (.int n)
  | real x => some (.real x)
  | null | text _ => none

/-- Whether two values are equal: numbers by what they denote, null to nothing. -/
def eq : Value → Value → Bool
  | int a, int b => decide (a = b)
  | text a, text b => decide (a = b)
  | a, b =>
    match a.number?, b.number? with
    | some x, some y => x.same y
    | _, _ => false

/-- Whether a whole number has at most 64 binary digits, one of which is for the sign. -/
def isStorable (n : Int) : Bool := -9223372036854775808 ≤ n && n < 9223372036854775808

/-- The blanks a spelled number may have around it. -/
def isSpellingBlank (c : Char) : Bool :=
  c == ' ' || (0x09 ≤ c.toNat && c.toNat ≤ 0x0D)

/-- The characters of a text between the blanks around them. -/
def spelling (s : String) : List Char :=
  ((s.toList.dropWhile isSpellingBlank).reverse.dropWhile isSpellingBlank).reverse

/-- The number a text spells, if all of it is one decimal number between blanks. -/
def spelled? (s : String) : Option Binary64 :=
  let (negative, unsigned) := Text.signed (spelling s)
  (Text.decimal? unsigned).map fun (digits, power) => Binary64.ofDigits negative digits power

/-- The whole number a text spells without point or exponent. -/
def spelledInt? (s : String) : Option Int :=
  let (negative, digits) := Text.signed (spelling s)
  if digits.isEmpty || !digits.all Char.isDigit then none
  else
    let n : Int := Text.digitsNumber digits
    some (if negative then -n else n)

/-- A number as a whole number where it is one that can be stored. The least of these stays as it is:
there a number too low for a whole number would end as well. -/
def ofNumber (x : Binary64) : Value :=
  match x.dyadic? with
  | some d =>
    let n := d.toRat.num
    if d.toRat.den = 1 && isStorable n && isStorable (n - 1) then int n else real x
  | none => real x

/-- A text as the number it spells. -/
def toNumeric : Value → Value
  | text s =>
    match spelledInt? s with
    | some n => if isStorable n then int n else real (Binary64.ofInt n)
    | none =>
      match spelled? s with
      | some x => ofNumber x
      | none => text s
  | real x => ofNumber x
  | v => v

/-- Whether a value counts as true in a condition: a number other than zero, or a text that begins
with one. -/
def holds : Value → Bool
  | null => false
  | int n => n != 0
  | real x => !x.isZero
  | text s => !(Text.leadingReal (s.toList.dropWhile isSpellingBlank)).isZero

/-- A number with a fraction as text: fifteen digits at most, without the zeros they end with but with
one place after the point, and with an exponent below `10 ^ -4` and from `10 ^ 15` on. -/
def realText (x : Binary64) : String :=
  match x.dyadic? with
  | none => Binary64.wordFor "Inf" "" x
  | some d =>
    let (digits, point) := Binary64.significant 15 d
    (if d < 0 then "-" else "") ++
      if -4 < point ∧ point ≤ 15 then Binary64.positional digits point
      else Binary64.positional digits 1 ++ Binary64.exponentText (point - 1)

/-- A number as its text. -/
def toText : Value → Value
  | int n => text (toString n)
  | real x => text (realText x)
  | v => v

/-- The value of a scalar. What is no number becomes null. -/
def ofScalar : Scalar → Value
  | .null | .real .nan => null
  | .bool b => int (if b then 1 else 0)
  | .int n => int n
  | .real x => real x
  | .text t => text t
  | s => text s.plain

/-- The value that is bound for a scalar of the given type. A whole number that is too large is
refused only when the statement runs. -/
def bindScalar (type : Option ColumnType) (s : Scalar) : Except SqlFault Value :=
  if s = .null then .ok null
  else
    match type with
    | some (.enumeration _ _) => if s.text?.isSome then .ok (ofScalar s) else .error .binding
    | some .boolean =>
      match Sql.asBool? s with
      | some b => .ok (int (if b then 1 else 0))
      | none => .error .binding
    | some .numeric =>
      let number :=
        match s with
        | .text t => Text.parseReal t
        | other => other.number?.bind Number.toBinary64?
      match number with
      | some x => .ok (ofScalar (.real x))
      | none => .error .binding
    | some .uuid => .error .binding
    | _ => .ok (ofScalar s)

/-- Why a list or a map cannot be bound: its type refuses it, or else the database does. -/
def containerFault : Option ColumnType → SqlFault
  | some (.enumeration _ _) | some .boolean | some .numeric | some .uuid => .binding
  | _ => .unstorable

/-- The value that is bound for a value of the given type. A list or map cannot be bound. -/
def bind (type : Option ColumnType) : Data → Except SqlFault Value
  | .scalar s => bindScalar type s
  | _ => .error (containerFault type)

/-- Whether a value can be handed to the database at all. -/
def fits : Value → Bool
  | int n => isStorable n
  | _ => true

end Value

/-- Turns a value into what a column of the affinity prefers. -/
def Affinity.apply : Affinity → Value → Value
  | text, v => v.toText
  | numeric, v => v.toNumeric
  | none, v => v

/-- A value together with the affinity of where it comes from. -/
structure Operand where
  value : Value
  affinity : Affinity
deriving DecidableEq, Inhabited

namespace Operand

/-- A value that comes from no column. -/
def bare (v : Value) : Operand := ⟨v, .none⟩

/-- Whether two operands are equal. A numeric side makes the other one numeric; failing that, a text
side turns a bare value into text. -/
def eq (a b : Operand) : Bool :=
  match a.affinity, b.affinity with
  | .numeric, .numeric => a.value.eq b.value
  | .numeric, _ => a.value.eq b.value.toNumeric
  | _, .numeric => a.value.toNumeric.eq b.value
  | .text, .none => a.value.eq b.value.toText
  | .none, .text => a.value.toText.eq b.value
  | _, _ => a.value.eq b.value

theorem eq_of_same_affinity {a b : Operand} (h : a.affinity = b.affinity) :
    a.eq b = a.value.eq b.value := by
  obtain ⟨va, fa⟩ := a
  obtain ⟨vb, fb⟩ := b
  simp only at h
  subst h
  cases fa <;> rfl

/-- Null equals nothing. -/
theorem eq_null_left (a b : Operand) (h : a.value = .null) : a.eq b = false := by
  obtain ⟨va, fa⟩ := a
  obtain ⟨vb, fb⟩ := b
  simp only at h
  subst h
  cases fa <;> cases fb <;>
    simp [eq, Value.eq, Value.number?, Value.toNumeric, Value.toText]

end Operand

end RowGuard
