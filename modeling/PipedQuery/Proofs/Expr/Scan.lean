import PipedQuery.Proofs.Expr.Readable

/-!
# Scanning canonical expressions

The canonical text of a readable expression scans as `Expr.lexemes` (`Expr.Readable.reads`).
-/

namespace PipedQuery

namespace Scan

theorem reads_mark {c : Char} {m : Mark} (found : plainMark? c = some m) :
    Reads [c] [.mark m] := reads_nil.mark found

theorem reads_minus {cs : List Char} {ls : List Lexeme} (h : Reads cs ls) :
    Reads ('-' :: cs) (.mark .minus :: ls) := h.mark rfl

theorem reads_comma {cs : List Char} {ls : List Lexeme} (h : Reads cs ls) :
    Reads (',' :: ' ' :: cs) (.mark .comma :: ls) := h.blank.mark rfl

/-- Texts between commas scan as their lexemes between commas. -/
theorem reads_commas {pieces : List (String × List Lexeme)}
    (h : ∀ p ∈ pieces, Reads p.1.toList p.2) :
    Reads (", ".intercalate (pieces.map Prod.fst)).toList (commaLexemes (pieces.map Prod.snd)) := by
  have comma : (", " : String).toList = [',', ' '] := rfl
  rw [String.toList_intercalate, List.map_map, comma]
  induction pieces with
  | nil => exact reads_nil
  | cons p pieces ih =>
    have here := h p (by simp)
    have others := ih fun p' member => h p' (by simp [member])
    cases pieces with
    | nil => simpa [commaLexemes] using here
    | cons p' pieces =>
      have both := here.append (reads_comma others) (stops_cons.mpr rfl)
      simpa [commaLexemes, List.intercalate_cons_cons] using both

theorem reads_commas_map {α : Type} (text : α → String) (lexemes : α → List Lexeme)
    (items : List α) (h : ∀ a ∈ items, Reads (text a).toList (lexemes a)) :
    Reads (", ".intercalate (items.map text)).toList (commaLexemes (items.map lexemes)) := by
  have pieces : ∀ p ∈ items.map fun a => (text a, lexemes a), Reads p.1.toList p.2 := by
    intro p member
    obtain ⟨a, found, rfl⟩ := List.mem_map.mp member
    exact h a found
  simpa [Function.comp_def] using reads_commas pieces

/-- A text between parentheses. -/
theorem reads_parens {cs : List Char} {ls : List Lexeme} (h : Reads cs ls) :
    Reads ('(' :: (cs ++ [')'])) (.mark .lParen :: (ls ++ [.mark .rParen])) :=
  (h.append (reads_mark rfl) (stops_cons.mpr rfl)).mark rfl

/-- A call with anything between its parentheses. -/
theorem reads_called (k : Keyword) (s : String)
    (spelled : k.spelling.toList.map Char.toLower = s.toList) {cs : List Char} {ls : List Lexeme}
    (h : Reads cs ls) :
    Reads (s.toList ++ '(' :: (cs ++ [')']))
      (k.lexeme :: .mark .lParen :: (ls ++ [.mark .rParen])) :=
  (reads_keyword_as k s spelled).append (reads_parens h) (stops_cons.mpr rfl)

end Scan

open Scan

theorem reads_decimal_text (d : Decimal) : Reads d.text.toList d.lexemes := by
  have digits := reads_decimal d
  rw [Decimal.text, String.toList_ofList, Decimal.lexemes]
  cases d.negative with
  | false => exact digits
  | true => exact reads_minus digits

theorem reads_int_text (n : Int) : Reads (toString n).toList (Literal.int n).lexemes := by
  cases n with
  | ofNat n => exact reads_integer n
  | negSucc n =>
    have text : (toString (Int.negSucc n)).toList = '-' :: (toString (n + 1)).toList := by
      change ("-" ++ toString (n + 1)).toList = _
      simp
    rw [text, Literal.lexemes, if_pos (Int.negSucc_lt_zero n)]
    exact reads_minus (reads_integer (n + 1))

theorem DateKind.lowercase_keyword (kind : DateKind) : kind.keyword.lowercase = kind.text := by
  cases kind <;> exact Keyword.lowercase_eq rfl

theorem DataType.lowercase_keyword (type : DataType) : type.keyword.lowercase = type.text := by
  cases type <;> exact Keyword.lowercase_eq rfl

theorem lowercase_boolKeyword (b : Bool) : (boolKeyword b).lowercase = boolText b := by
  cases b <;> exact Keyword.lowercase_eq rfl

/-- The text of a constant scans as its lexemes. -/
theorem Literal.reads_text (value : Literal) : Reads value.text.toList value.lexemes := by
  cases value with
  | int n => exact reads_int_text n
  | decimal d => exact reads_decimal_text d
  | str s => exact reads_string s
  | bool b =>
    rw [Literal.text, ← lowercase_boolKeyword]
    exact reads_keyword (boolKeyword b)
  | date kind value =>
    have text : (kind.text ++ " " ++ writeString value).toList =
        kind.keyword.lowercase.toList ++ ' ' :: (writeString value).toList := by
      simp [DateKind.lowercase_keyword]
    rw [Literal.text, text]
    exact (reads_keyword kind.keyword).append (reads_string value).blank (stops_cons.mpr rfl)

/-- A word and its value on the two sides of `=`. -/
theorem reads_assignment {name : String} {cs : List Char} {ls : List Lexeme}
    (word : IsWord name.toList) (h : Reads cs ls) :
    Reads (name.toList ++ '=' :: cs) (.word name :: .mark .equal :: ls) := by
  refine ⟨by rw [lexemes_word word (endsWord_equal cs), lexemes_plainMark rfl, h.1], ?_⟩
  have sound := h.2
  simpa [isSound_word, Lexeme.isSound_mark] using sound

theorem NamedOption.reads_text {o : NamedOption} (readable : o.IsReadable) :
    Reads o.text.toList o.lexemes := by
  obtain ⟨⟨k, -, name⟩, -⟩ := readable
  have text : o.text.toList = o.name.toList ++ '=' :: o.value.text.toList := by
    simp [NamedOption.text]
  rw [text]
  exact reads_assignment (name ▸ isWord_lowercase k) o.value.reads_text

theorem WeightedField.reads_text (f : WeightedField) : Reads f.text.toList f.lexemes := by
  obtain ⟨field, weight⟩ := f
  cases weight with
  | none => simpa [WeightedField.text, WeightedField.lexemes] using reads_string field
  | some weight =>
    have text : (WeightedField.text ⟨field, some weight⟩).toList =
        (writeString field).toList ++ ' ' :: '^' :: ' ' :: weight.text.toList := by
      simp [WeightedField.text]
    rw [text]
    exact (reads_string field).append ((reads_decimal_text weight).blank.mark rfl).blank
      (stops_cons.mpr rfl)

namespace Expr

theorem reads_parenthesize (needed : Bool) {text : String} {ls : List Lexeme}
    (h : Reads text.toList ls) :
    Reads (parenthesize needed text).toList (parenLexemes needed ls) := by
  cases needed with
  | false => exact h
  | true =>
    have : (parenthesize true text).toList = '(' :: (text.toList ++ [')']) := by
      simp [parenthesize]
    rw [this]
    exact reads_parens h

theorem reads_call {k : Keyword} {pieces : List (String × List Lexeme)}
    (h : ∀ p ∈ pieces, Reads p.1.toList p.2) :
    Reads (k.lowercase ++ "(" ++ ", ".intercalate (pieces.map Prod.fst) ++ ")").toList
      (.word k.lowercase :: .mark .lParen ::
        (commaLexemes (pieces.map Prod.snd) ++ [.mark .rParen])) := by
  have text : (k.lowercase ++ "(" ++ ", ".intercalate (pieces.map Prod.fst) ++ ")").toList =
      k.lowercase.toList ++
        '(' :: ((", ".intercalate (pieces.map Prod.fst)).toList ++ [')']) := by
    simp only [String.toList_append]
    simp
  rw [text, Lexeme.word_lowercase]
  exact reads_called k _ k.lowercase_toList.symm (reads_commas h)

theorem reads_fields (fields : List WeightedField) :
    Reads (text (.weighted fields)).toList (lexemes (.weighted fields)) := by
  have items := reads_commas_map WeightedField.text WeightedField.lexemes fields
    fun f _ => f.reads_text
  have text : (text (.weighted fields)).toList =
      '[' :: ((", ".intercalate (fields.map WeightedField.text)).toList ++ [']']) := by
    rw [Expr.text]
    simp only [String.toList_append]
    simp
  rw [text, Expr.lexemes]
  exact (items.append (reads_mark rfl) (stops_cons.mpr rfl)).mark rfl

/-! One lemma for each way to build an expression: its text scans as its lexemes if those of its parts
do. -/

theorem reads_text_call {k : Keyword} {family : FunctionFamily} {args : List Expr}
    {options : List NamedOption} (args_read : ∀ e ∈ args, Reads e.text.toList e.lexemes)
    (options_readable : ∀ o ∈ options, o.IsReadable) :
    Reads (text (.call k.lowercase family args options)).toList
      (lexemes (.call k.lowercase family args options)) := by
  have pieces : ∀ p ∈ args.map (fun e => (e.text, e.lexemes)) ++
      options.map (fun o => (o.text, o.lexemes)), Reads p.1.toList p.2 := by
    intro p member
    rcases List.mem_append.mp member with member | member
    · obtain ⟨e, found, rfl⟩ := List.mem_map.mp member
      exact args_read e found
    · obtain ⟨o, found, rfl⟩ := List.mem_map.mp member
      exact NamedOption.reads_text (options_readable o found)
  have whole := reads_call (k := k) pieces
  simp only [List.map_append, List.map_map, Function.comp_def] at whole
  rw [text_call, lexemes_call]
  exact whole

theorem reads_text_binary (op : BinaryOp) {left right : Expr}
    (left_read : Reads left.text.toList left.lexemes)
    (right_read : Reads right.text.toList right.lexemes) :
    Reads (text (.binary op left right)).toList (lexemes (.binary op left right)) := by
  have behind := op.reads_symbol.append (reads_parenthesize right.needsParens right_read).blank
    (stops_cons.mpr rfl)
  have whole := (reads_parenthesize left.needsParens left_read).append behind.blank
    (stops_cons.mpr rfl)
  rw [text, lexemes]
  simpa using whole

theorem reads_text_unary (op : UnaryOp) {operand : Expr}
    (operand_read : Reads operand.text.toList operand.lexemes) :
    Reads (text (.unary op operand)).toList (lexemes (.unary op operand)) := by
  have behind := reads_parenthesize operand.needsParens operand_read
  have text : (op.symbol ++ parenthesize operand.needsParens operand.text).toList =
      op.symbol.toList ++ (parenthesize operand.needsParens operand.text).toList := by simp
  rw [Expr.text, lexemes, text]
  cases op with
  | not => exact (reads_keyword_as .not_ "not" rfl).append behind.blank (stops_cons.mpr rfl)
  | negate => exact behind.mark rfl
  | plus => exact behind.mark rfl

theorem reads_text_inList {item : Expr} {list : List Expr}
    (item_read : Reads item.text.toList item.lexemes)
    (list_read : ∀ e ∈ list, Reads e.text.toList e.lexemes) :
    Reads (text (.inList item list)).toList (lexemes (.inList item list)) := by
  have items := reads_parens (reads_commas_map text lexemes list list_read)
  have behind := (reads_keyword_as .in_ "in" rfl).append items.blank (stops_cons.mpr rfl)
  have whole := (reads_parenthesize item.needsParens item_read).append behind.blank
    (stops_cons.mpr rfl)
  rw [text, lexemes, texts_eq_map, listLexemes_eq_map]
  simpa using whole

theorem reads_branches {branches : List (Expr × Expr)}
    (conditions_read : ∀ b ∈ branches, Reads b.1.text.toList b.1.lexemes)
    (values_read : ∀ b ∈ branches, Reads b.2.text.toList b.2.lexemes) :
    Reads (", ".intercalate (branchTexts branches)).toList
      (commaLexemes (branchLexemes branches)) := by
  rw [branchTexts_eq_map, branchLexemes_eq_map]
  refine reads_commas_map _ _ branches fun b member => ?_
  have both := (conditions_read b member).append (reads_comma (values_read b member))
    (stops_cons.mpr rfl)
  simpa using both

theorem reads_text_case {branches : List (Expr × Expr)} {fallback : Option Expr}
    (conditions_read : ∀ b ∈ branches, Reads b.1.text.toList b.1.lexemes)
    (values_read : ∀ b ∈ branches, Reads b.2.text.toList b.2.lexemes)
    (fallback_read : ∀ e ∈ fallback, Reads e.text.toList e.lexemes) :
    Reads (text (.case branches fallback)).toList (lexemes (.case branches fallback)) := by
  have items := reads_branches conditions_read values_read
  cases fallback with
  | none =>
    have whole := (reads_keyword_as .case "case" rfl).append (reads_parens items)
      (stops_cons.mpr rfl)
    rw [text, lexemes]
    simpa using whole
  | some fallback =>
    have word : Lexeme.word "else" = ⟨.identifier, "else"⟩ := by decide +kernel
    have other := (reads_word (s := "else") (by decide +kernel)).append
      (fallback_read fallback rfl).blank (stops_cons.mpr rfl)
    have whole := (reads_keyword_as .case "case" rfl).append
      (reads_parens (items.append other.blank (stops_cons.mpr rfl))) (stops_cons.mpr rfl)
    rw [word] at whole
    rw [text, lexemes]
    simpa using whole

theorem reads_text_cast {value : Expr} (target : DataType)
    (value_read : Reads value.text.toList value.lexemes) :
    Reads (text (.cast value target)).toList (lexemes (.cast value target)) := by
  have behind := (reads_keyword_as .as_ "as" rfl).append (reads_keyword target.keyword).blank
    (stops_cons.mpr rfl)
  have whole := (reads_keyword_as .cast "cast" rfl).append
    (reads_parens (value_read.append behind.blank (stops_cons.mpr rfl))) (stops_cons.mpr rfl)
  rw [target.lowercase_keyword] at whole
  rw [text, lexemes]
  simpa using whole

theorem reads_text_interval {value : Expr} (unit : Keyword)
    (value_read : Reads value.text.toList value.lexemes) :
    Reads (text (.interval value unit)).toList (lexemes (.interval value unit)) := by
  have behind := (reads_parenthesize value.needsParens value_read).append (reads_keyword unit).blank
    (stops_cons.mpr rfl)
  have whole := (reads_keyword_as .interval "interval" rfl).append behind.blank (stops_cons.mpr rfl)
  rw [text, lexemes]
  simpa using whole

/-- The text of a readable expression scans as its lexemes. -/
theorem Readable.reads {follow : Follow} {e : Expr} (readable : Readable follow e) :
    Reads e.text.toList e.lexemes := by
  induction readable with
  | @literal _ value _ =>
    rw [text, lexemes]
    exact value.reads_text
  | field scannable _ =>
    rw [text, lexemes]
    exact reads_name scannable
  | call _ _ _ _ _ _ options_readable ih => exact reads_text_call ih options_readable
  | @multiField _ fields arg _ _ _ _ _ _ options_readable ih =>
    have args : ∀ e ∈ [.weighted fields, arg], Reads e.text.toList e.lexemes :=
      List.forall_mem_cons.mpr ⟨reads_fields fields, List.forall_mem_singleton.mpr ih⟩
    exact reads_text_call args options_readable
  | binary _ _ _ left right => exact reads_text_binary _ left right
  | unary _ ih => exact reads_text_unary _ ih
  | inList _ _ _ item list => exact reads_text_inList item list
  | case _ _ _ _ _ conditions values _ fallback => exact reads_text_case conditions values fallback
  | cast _ ih => exact reads_text_cast _ ih
  | interval _ _ _ ih => exact reads_text_interval _ ih

end Expr

end PipedQuery
