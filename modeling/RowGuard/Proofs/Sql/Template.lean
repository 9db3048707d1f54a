import RowGuard.Proofs.Outcome
import RowGuard.Sql.Literal
import RowGuard.Sql.Piece

/-!
# Text around a value

A text in which one value is compared with columns, in several places, is the same for every value but for the
value's own text: a `Template` with gaps, which are filled with it. What fills a gap stands between blanks. Whether
it is one token there is another question: `isToken` is what a reader of SQL takes for the literal of a number, of a
truth value or of a text.
-/

namespace RowGuard.Sql

/-- A text with gaps for a value that columns are compared with. -/
abbrev Template := List (Option String)

namespace Template

/-- The text with a word in every gap. -/
def fill (word : String) : Template → String
  | [] => ""
  | some text :: rest => text ++ fill word rest
  | none :: rest => " = " ++ word ++ " AND " ++ fill word rest

theorem fill_append (word : String) (s t : Template) : fill word (s ++ t) = fill word s ++ fill word t := by
  induction s with
  | nil => simp [fill]
  | cons part rest ih => cases part <;> simp [fill, ih, String.append_assoc]

/-- A text without gaps is the same for every word. -/
theorem fill_of_closed {t : Template} (h : none ∉ t) (word other : String) : fill word t = fill other t := by
  induction t with
  | nil => rfl
  | cons part rest ih =>
    obtain ⟨hpart, hrest⟩ := not_or.mp fun hmem => h (List.mem_cons.mpr hmem)
    cases part with
    | none => exact absurd rfl hpart
    | some text => rw [fill, fill, ih hrest]

/-- Templates one after another, with a text between them. -/
def join (separator : String) : List Template → Template
  | [] => []
  | [t] => t
  | t :: rest => t ++ some separator :: join separator rest

theorem fill_join (word separator : String) (ts : List Template) :
    fill word (join separator ts) = separator.intercalate (ts.map (fill word)) := by
  induction ts with
  | nil => rfl
  | cons t rest ih =>
    cases rest with
    | nil => simp [join]
    | cons u rest =>
      rw [join, fill_append, fill, ih]
      · simp [String.intercalate_cons_cons, String.append_assoc]
      · simp

theorem none_mem_join {separator : String} {ts : List Template} : none ∈ join separator ts ↔ ∃ t ∈ ts, none ∈ t := by
  induction ts with
  | nil => simp [join]
  | cons t rest ih =>
    cases rest with
    | nil => simp [join]
    | cons u rest =>
      rw [join]
      · simp [ih]
      · simp

end Template

/-! ## Tokens -/

/-- A number with its sign, as SQL writes one in digits. -/
def isNumber (s : String) : Bool := (Text.decimal? (Text.signed s.toList).2).isSome

/-- A single literal: a number, a truth value, or a text in quotes. -/
def isToken (s : String) : Bool :=
  isNumber s || s == "true" || s == "false" ||
    match pieces s.toList with
    | some [.text _] => true
    | _ => false

theorem isToken_of_isNumber {s : String} (h : isNumber s = true) : isToken s = true := by
  simp [isToken, h]

theorem isSome_decimal?_of_digits {cs : List Char} (hne : cs ≠ []) (h : ∀ c ∈ cs, c.isDigit = true) :
    (Text.decimal? cs).isSome = true := by
  have htake : cs.takeWhile Char.isDigit = cs := List.takeWhile_eq_self_iff.mpr h
  have hdrop : cs.dropWhile Char.isDigit = [] := List.dropWhile_eq_nil_iff.mpr h
  simp [Text.decimal?, htake, hdrop, hne]

theorem isNumber_of_digits {s : String} (hne : s.toList ≠ []) (h : ∀ c ∈ s.toList, c.isDigit = true) :
    isNumber s = true := by
  have hsigned : (Text.signed s.toList).2 = s.toList := by
    unfold Text.signed
    split
    case h_1 heq => exact absurd (h '-' (heq ▸ List.mem_cons_self)) (by decide)
    case h_2 heq => exact absurd (h '+' (heq ▸ List.mem_cons_self)) (by decide)
    case h_3 => rfl
  rw [isNumber, hsigned]
  exact isSome_decimal?_of_digits hne h

theorem isDigit_of_mem_toString {n : Nat} {c : Char} (h : c ∈ (toString n).toList) : c.isDigit = true :=
  Nat.isDigit_of_mem_toDigits (b := 10) (by decide) (by decide) (by simpa [toString] using h)

theorem toList_toString_ne_nil (n : Nat) : (toString n).toList ≠ [] := by
  simp [toString, Nat.toDigits_ne_nil]

/-- A whole number is written as one number. -/
theorem isNumber_toString (n : Int) : isNumber (toString n) = true := by
  cases n with
  | ofNat n => exact isNumber_of_digits (toList_toString_ne_nil n) fun _ => isDigit_of_mem_toString
  | negSucc n =>
    have hlist : (toString (Int.negSucc n)).toList = '-' :: (toString (n + 1)).toList := by
      show ("-" ++ toString (n + 1)).toList = _
      simp
    rw [isNumber, hlist]
    exact isSome_decimal?_of_digits (toList_toString_ne_nil _) fun _ => isDigit_of_mem_toString

/-- A truth value is written as a number or as a word for it. -/
theorem isToken_boolLiteral (d : Dialect) (b : Bool) : isToken (boolLiteral d b) = true := by
  cases d <;> cases b <;> decide +kernel

/-- A text between quotes, with its own quotes doubled, is one literal. -/
theorem isToken_quoted (s : String) : isToken ("'" ++ String.ofList (encodeText s.toList) ++ "'") = true := by
  have hpieces : pieces ("'" ++ String.ofList (encodeText s.toList) ++ "'").toList = some [.text s] :=
    pieces_textLiteral s
  rw [isToken, hpieces, Bool.or_true]

variable {d : Dialect} {type : ColumnType} {token : String}

/-- A whole number that is not of a type of texts is written as one token. -/
theorem isToken_of_int (hsort : type.sort ≠ .texts) {n : Int} (h : literal d (some type) (.int n) = .ok token) :
    isToken token = true := by
  simp only [literal, scalarLiteral, reduceCtorEq, if_false] at h
  cases type with
  | text | string | enumeration => exact absurd rfl hsort
  | integer | bigInteger | numeric =>
    obtain rfl := Except.ok.inj h
    exact isToken_of_isNumber (isNumber_toString n)
  | boolean =>
    cases hb : asBool? (.int n) with
    | none => simp [hb] at h
    | some b =>
      simp only [hb, Except.ok.injEq] at h
      exact h ▸ isToken_boolLiteral d b
  | uuid =>
    cases d with
    | sqlite => cases h
    | postgresql =>
      obtain rfl := Except.ok.inj h
      exact isToken_quoted _

/-- A text that is not of a type of texts is written as one token, or it is a numeral and stands there as it is. -/
theorem isToken_of_text (hsort : type.sort ≠ .texts) {s : String}
    (h : literal d (some type) (.text s) = .ok token) :
    isToken token = true ∨ type = .numeric ∧ s = token ∧ Text.isNumeral s = true := by
  simp only [literal, scalarLiteral, reduceCtorEq, if_false] at h
  cases type with
  | text | string | enumeration => exact absurd rfl hsort
  | integer | bigInteger =>
    cases hn : asInt? (.text s) with
    | none => simp [hn] at h
    | some n =>
      simp only [hn, Except.ok.injEq] at h
      exact .inl (h ▸ isToken_of_isNumber (isNumber_toString n))
  | numeric =>
    cases hs : Text.isNumeral s with
    | false => simp [hs] at h
    | true => exact .inr ⟨rfl, by simpa [hs] using h, rfl⟩
  | boolean => cases h
  | uuid =>
    cases d with
    | sqlite => cases h
    | postgresql =>
      obtain rfl := Except.ok.inj h
      exact .inl (isToken_quoted _)

end RowGuard.Sql
