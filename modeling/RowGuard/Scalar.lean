import RowGuard.Calendar
import RowGuard.Number.Binary64
import RowGuard.Text.Quoted

/-!
# Scalars

The atomic values of documents, identities and columns. Numbers of different kinds may denote the
same number, and a truth value counts as zero or one: `same` is that equality, and `same_text_iff`
says that texts are the same only when they are equal.
-/

namespace RowGuard

/-- A value that counts as a number. -/
inductive Number where
  | bool (b : Bool)
  | int (n : Int)
  | real (x : Binary64)
deriving DecidableEq

namespace Number

/-- The number as one with a fraction, which an infinity or no number also is. A whole number is kept
exactly. -/
def value : Number → Binary64
  | bool b => .finite (if b then 1 else 0)
  | int n => .finite (Dyadic.ofInt n)
  | real x => x

/-- Whether two numbers are the same; the two zeros are. -/
def same (a b : Number) : Bool :=
  match a.value.dyadic?, b.value.dyadic? with
  | some x, some y => x == y
  | none, none => a.value == b.value
  | _, _ => false

/-- Whether a number is no greater than another; nothing is ordered beside what is no number. -/
def atMost (a b : Number) : Bool :=
  match a.value.dyadic?, b.value.dyadic? with
  | some x, some y => decide (x ≤ y)
  | _, _ =>
    match a.value.side?, b.value.side? with
    | some x, some y => decide (x ≤ y)
    | _, _ => false

/-- Whether a number is less than a whole number. -/
def isBelow (a : Number) (n : Int) : Bool :=
  match a.value.dyadic? with
  | some x => decide (x < Dyadic.ofInt n)
  | none => a.value.side? == some (-1)

/-- Twice the number; a truth value becomes a whole number. -/
def twice : Number → Number
  | bool b => int (if b then 2 else 0)
  | int n => int (2 * n)
  | real x => real x.double

/-- One more than the number; a truth value becomes a whole number. -/
def succ : Number → Number
  | bool b => int (if b then 2 else 1)
  | int n => int (n + 1)
  | real x => real (x.add (.finite 1))

/-- The whole number given, if the number is of a whole kind. -/
def toInt? : Number → Option Int
  | bool b => some (if b then 1 else 0)
  | int n => some n
  | real _ => none

/-- The number without its fraction. -/
def truncate? : Number → Option Int
  | bool b => some (if b then 1 else 0)
  | int n => some n
  | real x => x.truncate?

/-- The nearest number with 53 binary digits; a whole number may be too large to have one. -/
def toBinary64? : Number → Option Binary64
  | bool b => some (.finite (if b then 1 else 0))
  | int n => Binary64.ofInt? n
  | real x => some x

/-- The number as text. -/
def shown : Number → String
  | bool b => if b then "True" else "False"
  | int n => toString n
  | real x => x.toText

theorem same_self (a : Number) : a.same a = true := by
  unfold same
  cases a.value.dyadic? <;> simp

theorem same_comm (a b : Number) : a.same b = b.same a := by
  unfold same
  cases a.value.dyadic? <;> cases b.value.dyadic? <;> simp [Bool.beq_comm]

end Number

/-- An atomic value. -/
inductive Scalar where
  | null
  | bool (b : Bool)
  | int (n : Int)
  | real (x : Binary64)
  | text (s : String)
  | date (d : Date)
  | moment (m : Moment)
  | bytes (bs : List UInt8)
deriving DecidableEq, Inhabited

namespace Scalar

/-- A number as a scalar. -/
def ofNumber : Number → Scalar
  | .bool b => bool b
  | .int n => int n
  | .real x => real x

/-- The scalar as a number, if it is one. -/
def number? : Scalar → Option Number
  | bool b => some (.bool b)
  | int n => some (.int n)
  | real x => some (.real x)
  | _ => none

/-- The text held, if the scalar is one. -/
def text? : Scalar → Option String
  | text s => some s
  | _ => none

/-- The moment held, if the scalar is one. -/
def moment? : Scalar → Option Moment
  | moment m => some m
  | _ => none

/-- Whether two scalars are equal as values: numbers by the number they denote, moments by the
instant. -/
def same (a b : Scalar) : Bool :=
  match a.number?, b.number? with
  | some x, some y => x.same y
  | none, none =>
    match a.moment?, b.moment? with
    | some m, some n => m.same n
    | _, _ => a == b
  | _, _ => false

/-- The sorts of scalars that have an order among themselves. -/
inductive Order where
  | numbers
  | texts
  | dates
  | moments (universal : Bool)
  | bytes
deriving DecidableEq

/-- The scalars with which a scalar has an order. -/
def order? : Scalar → Option Order
  | null => none
  | bool _ | int _ | real _ => some .numbers
  | text _ => some .texts
  | date _ => some .dates
  | moment m => some (.moments m.offset.isSome)
  | bytes _ => some .bytes

/-- Whether the scalar comes no later than another: numbers by their value, texts by their characters,
dates and moments by time. Scalars of other kinds have no order. -/
def atMost : Scalar → Scalar → Bool
  | text s, text t => decide (s ≤ t)
  | date d, date e => decide (d.ordinal ≤ e.ordinal)
  | moment m, moment n => m.offset.isSome == n.offset.isSome && decide (m.instant ≤ n.instant)
  | bytes xs, bytes ys => decide (xs ≤ ys)
  | a, b =>
    match a.number?, b.number? with
    | some x, some y => x.atMost y
    | _, _ => false

/-- Null, zero, false, the empty text and no bytes count as false. -/
def truthy : Scalar → Bool
  | null => false
  | bool b => b
  | int n => n != 0
  | real x => !x.isZero
  | text s => s != ""
  | date _ | moment _ => true
  | bytes bs => !bs.isEmpty

/-- One byte as it stands between the given quotes. -/
def escapeByte (quote : Char) (b : UInt8) : List Char :=
  let c := Char.ofNat b.toNat
  if c == quote || c == '\\' then ['\\', c]
  else if c == '\n' then ['\\', 'n']
  else if c == '\r' then ['\\', 'r']
  else if c == '\t' then ['\\', 't']
  else if 0x20 ≤ b && b < 0x7F then [c]
  else '\\' :: 'x' :: Text.hexDigits 2 b.toNat

/-- Bytes as messages show them: between quotes after a mark. -/
def shownBytes (bs : List UInt8) : String :=
  let quote := Text.quoteFor (bs.map fun b => Char.ofNat b.toNat)
  String.ofList ('b' :: quote :: (bs.flatMap (escapeByte quote) ++ [quote]))

/-- The scalar as messages show it; a text stands in quotes. -/
def shown : Scalar → String
  | null => "None"
  | bool b => if b then "True" else "False"
  | int n => toString n
  | real x => x.toText
  | text s => Text.quoted s
  | date d => d.shown
  | moment m => m.shown
  | bytes bs => shownBytes bs

/-- The scalar as plain text. -/
def plain : Scalar → String
  | text s => s
  | date d => d.toText
  | moment m => m.toText
  | x => x.shown

/-- The name of the scalar's kind. -/
def kind : Scalar → String
  | null => "NoneType"
  | bool _ => "bool"
  | int _ => "int"
  | real _ => "float"
  | text _ => "str"
  | date _ => "datetime.date"
  | moment _ => "datetime.datetime"
  | bytes _ => "bytes"

@[simp]
theorem number?_text (s : String) : (text s).number? = none := rfl

@[simp]
theorem moment?_text (s : String) : (text s).moment? = none := rfl

@[simp]
theorem number?_ofNumber (n : Number) : (ofNumber n).number? = some n := by
  cases n <;> rfl

@[simp]
theorem atMost_text (s t : String) : (text s).atMost (text t) = decide (s ≤ t) := rfl

/-- Texts are the same only when they are equal. -/
theorem same_text_iff (s t : String) : (text s).same (text t) = true ↔ s = t := by
  simp [same]

theorem same_self (a : Scalar) : a.same a = true := by
  unfold same
  cases a.number? with
  | some x => exact x.same_self
  | none =>
    cases a.moment? with
    | some m => exact m.same_self
    | none => simp

theorem same_comm (a b : Scalar) : a.same b = b.same a := by
  unfold same
  cases a.number? with
  | some x =>
    cases b.number? with
    | some y => exact x.same_comm y
    | none => rfl
  | none =>
    cases b.number? with
    | some y => rfl
    | none =>
      cases a.moment? with
      | none => cases b.moment? <;> simp [Bool.beq_comm]
      | some m =>
        cases b.moment? with
        | none => simp [Bool.beq_comm]
        | some n => exact m.same_comm n

end Scalar

end RowGuard
