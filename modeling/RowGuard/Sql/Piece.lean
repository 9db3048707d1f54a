import RowGuard.Sql.Literal

/-!
# Pieces of SQL text

SQL text as a reader sees it that knows of string literals and of nothing else: a quote begins a
literal, which goes on to the next quote that is not doubled, and every other character stands for
itself. `pieces_append` says how the pieces of two texts go together, and `pieces_textLiteral` that a
text written as a literal is one piece, whatever it contains.
-/

namespace RowGuard.Sql

/-- A piece of SQL text: a character outside of literals, or the text that a literal stands for. -/
inductive Piece where
  | char (c : Char)
  | text (s : String)
deriving DecidableEq

namespace Piece

/-- The text of a literal. -/
def text? : Piece → Option String
  | char _ => none
  | text s => some s

/-- A character outside of literals; a literal only leaves its place. -/
def char? : Piece → Option Char
  | char c => some c
  | text _ => none

end Piece

theorem length_lt_of_decodeText {cs text after : List Char} (h : decodeText cs = some (text, after)) :
    after.length < cs.length := by
  fun_induction decodeText cs generalizing text <;> grind [Option.map_eq_some_iff]

/-- A literal that ends inside a text is the same when more follows, unless a quote at the very end of
the text is doubled by it. -/
theorem decodeText_append {cs text after : List Char} (more : List Char)
    (h : decodeText cs = some (text, after)) (hmore : after = [] → more.head? ≠ some '\'') :
    decodeText (cs ++ more) = some (text, after ++ more) := by
  fun_induction decodeText cs generalizing text with
  | case1 => simp at h
  | case2 rest ih =>
    obtain ⟨⟨t, a⟩, hrest, heq⟩ := Option.map_eq_some_iff.mp h
    cases heq
    rw [List.cons_append, List.cons_append, decodeText.eq_2, ih hrest]
    rfl
  | case3 rest hrest =>
    obtain ⟨rfl, rfl⟩ : [] = text ∧ rest = after := by simpa using h
    have hgoes : ∀ r, rest ++ more = '\'' :: r → False := by
      cases rest with
      | nil => exact fun r hr => hmore rfl (by simp [show more = '\'' :: r from hr])
      | cons c cs => exact fun r hr => hrest cs (by simpa using (List.cons.inj hr).1)
    rw [List.cons_append, decodeText.eq_3 _ hgoes]
  | case4 c rest _ hquote ih =>
    obtain ⟨⟨t, a⟩, hrest, heq⟩ := Option.map_eq_some_iff.mp h
    cases heq
    rw [List.cons_append, decodeText.eq_4 _ _ (fun _ hc _ => hquote hc) hquote, ih hrest]
    rfl

/-- The pieces of SQL text; there are none if a literal does not end. -/
def pieces : List Char → Option (List Piece)
  | [] => some []
  | c :: rest =>
    if c = '\'' then
      match _h : decodeText rest with
      | none => none
      | some (text, after) => (pieces after).map (.text (String.ofList text) :: ·)
    else (pieces rest).map (.char c :: ·)
termination_by cs => cs.length
decreasing_by
  · exact Nat.lt_succ_of_lt (length_lt_of_decodeText _h)
  · exact Nat.lt_succ_self rest.length

theorem pieces_cons_of_ne {c : Char} (hc : c ≠ '\'') (rest : List Char) :
    pieces (c :: rest) = (pieces rest).map (.char c :: ·) := by
  rw [pieces, if_neg hc]

theorem pieces_quote {rest text after : List Char} (h : decodeText rest = some (text, after)) :
    pieces ('\'' :: rest) = (pieces after).map (.text (String.ofList text) :: ·) := by
  rw [pieces, if_pos rfl]
  split <;> simp_all

theorem pieces_append_of_not_mem {a : List Char} (ha : '\'' ∉ a) (b : List Char) :
    pieces (a ++ b) = (pieces b).map (a.map .char ++ ·) := by
  induction a with
  | nil => simp
  | cons c rest ih =>
    obtain ⟨hc, hrest⟩ := List.ne_and_not_mem_of_not_mem_cons ha
    rw [List.cons_append, pieces_cons_of_ne hc.symm, ih hrest, Option.map_map]
    rfl

/-- The pieces of one text after another, where the second does not double a quote that ends the first. -/
theorem pieces_append {a b : List Char} {ps qs : List Piece} (ha : pieces a = some ps) (hb : pieces b = some qs)
    (hhead : b.head? ≠ some '\'') : pieces (a ++ b) = some (ps ++ qs) := by
  fun_induction pieces a generalizing ps with
  | case1 => simp_all
  | case2 rest hnone => simp at ha
  | case3 rest text after htext ih =>
    obtain ⟨ps', hps', rfl⟩ := Option.map_eq_some_iff.mp ha
    rw [List.cons_append, pieces_quote (decodeText_append b htext fun _ => hhead), ih hps']
    rfl
  | case4 c rest hc ih =>
    obtain ⟨ps', hps', rfl⟩ := Option.map_eq_some_iff.mp ha
    rw [List.cons_append, pieces_cons_of_ne hc, ih hps']
    rfl

/-- A text written as a literal is read back as that text and nothing more. -/
theorem pieces_textLiteral (s : String) : pieces (textLiteral .sqlite s).toList = some [.text s] := by
  have htext := decodeText_encodeText s.toList [] (by simp)
  have hlist : (textLiteral .sqlite s).toList = '\'' :: (encodeText s.toList ++ ['\'']) := by
    simp [textLiteral, escapePercent, Dialect.doublesPercent]
  rw [hlist, pieces_quote htext]
  simp [pieces]

end RowGuard.Sql
