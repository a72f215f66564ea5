import PipedQuery.Proofs.Grammar.Constants
import PipedQuery.Proofs.Grammar.Levels

/-!
# Reading operands

What the grammar makes of constants without a sign, fields, special forms, signs and parentheses,
with what its parsers make of the parts inside.
-/

namespace PipedQuery

/-- Whether an operand ends at the lexemes whatever word it ends with. -/
def EndsOperand (rest : List Lexeme) : Prop :=
  firstKind rest ≠ some (.mark .dot) ∧ firstKind rest ≠ some (.mark .lParen) ∧
    (firstKind rest).any TokenKind.isString = false

/-- An operand ends at what is no dot, no parenthesis and no string. -/
theorem EndsOperand.of_kind {l : Lexeme} {ts : List Lexeme}
    (h : l.kind ≠ .mark .dot ∧ l.kind ≠ .mark .lParen ∧ l.kind.isString = false) :
    EndsOperand (l :: ts) := by
  simpa [EndsOperand] using h

theorem endsOperand_keyword (k : Keyword) (ts : List Lexeme) : EndsOperand (k.lexeme :: ts) :=
  .of_kind (by simp [TokenKind.isString])

theorem endsOperand_operator (op : BinaryOp) (ts : List Lexeme) : EndsOperand (op.lexeme :: ts) := by
  cases op <;> exact .of_kind (by decide)

theorem Closes.endsOperand {rest : List Lexeme} (closes : Closes rest) : EndsOperand rest := by
  cases rest with
  | nil => simp [EndsOperand]
  | cons l rest =>
    refine .of_kind ?_
    rcases closes l rfl with kind | kind | kind | ⟨kind, -⟩ <;> simp [kind, TokenKind.isString]

theorem closes_mark {m : Mark} (h : m = .rParen ∨ m = .comma) (ts : List Lexeme) :
    Closes (.mark m :: ts) := by
  rintro l ⟨⟩
  rcases h with rfl | rfl <;> simp

namespace Grammar

open PipedQuery.Parser

variable {n : Nat} {ts rest : List Lexeme} {e : Expr}

/-- A minus sign negates the operand behind it, one level deeper. -/
theorem unary_minus (found : (level n).unary ts = ⟨.ok e, rest, []⟩) :
    (level (n + 1)).unary (.mark .minus :: ts) = ⟨.ok (.unary .negate e), rest, []⟩ := by
  change signed (level n) _ = _
  simp [signed, eatMark, eat_of_eq ts (Lexeme.mark_kind .minus), found]

/-- A plus sign stays in front of the operand behind it, one level deeper. -/
theorem unary_plus (found : (level n).unary ts = ⟨.ok e, rest, []⟩) :
    (level (n + 1)).unary (.mark .plus :: ts) = ⟨.ok (.unary .plus e), rest, []⟩ := by
  have noMinus : firstKind (.mark .plus :: ts) ≠ some (.mark .minus) := by simp
  change signed (level n) _ = _
  simp [signed, eatMark, eat_of_ne noMinus, eat_of_eq ts (Lexeme.mark_kind .plus), found]

/-- What has the form of a primary expression has no sign. -/
theorem unary_of_form (form : primaryForm ts ≠ .none) :
    (level (n + 1)).unary ts = primary (level n) ts := by
  have noMinus : firstKind ts ≠ some (.mark .minus) := by
    intro minus
    simp [primaryForm, minus] at form
  have noPlus : firstKind ts ≠ some (.mark .plus) := by
    intro plus
    simp [primaryForm, plus] at form
  change signed (level n) ts = _
  simp [signed, eatMark, eat_of_ne noMinus, eat_of_ne noPlus]

theorem ne_not_of_form (form : primaryForm ts ≠ .none) :
    firstKind ts ≠ some (.keyword .not_) := by
  intro sign
  have none : primaryForm ts = keywordForm .not_ (secondKind ts) := by
    simp only [primaryForm, sign]
  exact form none

/-- A group gives what is inside its parentheses, one level deeper. -/
theorem unary_group (found : (level n).expression ts = ⟨.ok e, .mark .rParen :: rest, []⟩) :
    (level (n + 1)).unary (.mark .lParen :: ts) = ⟨.ok e, rest, []⟩ := by
  have form : primaryForm (.mark .lParen :: ts) = .group := rfl
  rw [unary_of_form (by simp [form])]
  simp [primary, form, found, expectMark, expect_of_eq rest (Lexeme.mark_kind .rParen)]

section Keywords

theorem primaryForm_keyword (k : Keyword) (ts : List Lexeme) :
    primaryForm (k.lexeme :: ts) = keywordForm k (firstKind ts) := rfl

theorem primaryForm_case (ts : List Lexeme) :
    primaryForm (Keyword.case.lexeme :: .mark .lParen :: ts) = .case := rfl

theorem primaryForm_cast (ts : List Lexeme) :
    primaryForm (Keyword.cast.lexeme :: .mark .lParen :: ts) = .cast := rfl

/-- `interval` starts one if what follows may be the value. -/
theorem primaryForm_interval (starts : (firstKind ts).any startsIntervalValue = true) :
    primaryForm (Keyword.interval.lexeme :: ts) = .interval := by
  rw [primaryForm_keyword, keywordForm, if_neg (by decide), if_neg (by decide)]
  simp only [starts]
  rfl

/-- The keyword of a function in front of a parenthesis starts a call. -/
theorem primaryForm_call {k : Keyword} {family : FunctionFamily} (function : k.family? = some family)
    (notCast : k ≠ .cast) (ts : List Lexeme) :
    primaryForm (k.lexeme :: .mark .lParen :: ts) = .call k family := by
  have others : k ≠ .true_ ∧ k ≠ .false_ ∧ k ≠ .interval ∧ k ≠ .case := by
    refine ⟨?_, ?_, ?_, ?_⟩ <;> rintro rfl <;> cases function
  have noString : (some (TokenKind.mark .lParen)).any TokenKind.isString = false := rfl
  rw [primaryForm_keyword, firstKind_cons, Lexeme.mark_kind]
  simp only [keywordForm, others, if_false, noString, decide_false, Bool.false_and,
    Bool.false_eq_true, notCast, function, decide_true, Bool.true_or, if_true]
  cases DateKind.ofKeyword? k <;> rfl

end Keywords

section Constants

theorem primaryForm_number {l : Lexeme} (isNumber : l.kind.isNumber = true) (ts : List Lexeme) :
    primaryForm (l :: ts) = .number := by
  cases kind : l.kind <;> simp_all [TokenKind.isNumber, primaryForm]

/-- The lexeme of a number is read as its constant. -/
theorem unary_number {l : Lexeme} {value : Literal} (isNumber : l.kind.isNumber = true)
    (h : numberLiteral? l = some value) (ts : List Lexeme) :
    (level (n + 1)).unary (l :: ts) = ⟨.ok (.literal value), ts, []⟩ := by
  have form := primaryForm_number isNumber ts
  rw [unary_of_form (by simp [form])]
  simp [primary, form, number, h]

theorem unary_string (s : String) (ts : List Lexeme) :
    (level (n + 1)).unary (.string s :: ts) = ⟨.ok (.literal (.str s)), ts, []⟩ := by
  have form : primaryForm (.string s :: ts) = .string := rfl
  rw [unary_of_form (by simp [form])]
  simp [primary, form, unquote_string]

theorem unary_bool (b : Bool) (ts : List Lexeme) :
    (level (n + 1)).unary ((boolKeyword b).lexeme :: ts) = ⟨.ok (.literal (.bool b)), ts, []⟩ := by
  have form : primaryForm ((boolKeyword b).lexeme :: ts) = .boolean b := by
    cases b <;> rfl
  rw [unary_of_form (by simp [form])]
  simp [primary, form]

theorem unary_date (kind : DateKind) (value : String) (ts : List Lexeme) :
    (level (n + 1)).unary (kind.keyword.lexeme :: .string value :: ts) =
      ⟨.ok (.literal (.date kind value)), ts, []⟩ := by
  have form : primaryForm (kind.keyword.lexeme :: .string value :: ts) = .date kind := by
    cases kind <;> rfl
  rw [unary_of_form (by simp [form])]
  simp [primary, form, unquote_string]

/-- A constant without a sign is read back. -/
theorem unary_literal {value : Literal} (readable : value.IsUnsigned) (ts : List Lexeme) :
    (level (n + 1)).unary (value.lexemes ++ ts) = ⟨.ok (.literal value), ts, []⟩ := by
  cases value with
  | int v =>
    obtain ⟨sign, small⟩ := readable
    rw [Literal.lexemes, if_neg (by omega), List.singleton_append]
    have value : ((v.natAbs : Nat) : Int) = v := by omega
    rw [unary_number (Lexeme.integer_kind v.natAbs ▸ rfl) (numberLiteral?_integer small), value]
  | decimal d =>
    obtain ⟨sign, constant⟩ := readable
    rw [Literal.lexemes, Decimal.lexemes, sign, if_neg (by simp), List.singleton_append,
      unary_number d.lexeme_isNumber (numberLiteral?_decimal constant)]
    obtain ⟨negative, mantissa, scale⟩ := d
    obtain rfl : negative = false := sign
    rfl
  | str s => exact unary_string s ts
  | bool b => exact unary_bool b ts
  | date kind s => exact unary_date kind s ts

end Constants

section Fields

/-- A word that may name a field does, if nothing behind it makes another thing of it. -/
theorem keywordForm_field {k : Keyword} {next : Option TokenKind} (named : k.canNameField = true)
    (noString : next.any TokenKind.isString = false) (noCall : next ≠ some (.mark .lParen))
    (noInterval : k = .interval → next.any startsIntervalValue = false)
    (noRank : k = .percentile → next ≠ some (.mark .less)) : keywordForm k next = .field := by
  have notTrue : k ≠ .true_ := by
    rintro rfl
    simp [Keyword.canNameField] at named
  have notFalse : k ≠ .false_ := by
    rintro rfl
    simp [Keyword.canNameField] at named
  have notInterval : (k = .interval && next.any startsIntervalValue) = false := by
    by_cases interval : k = .interval <;> simp_all
  have notRank : (k = .percentile && next = some (.mark .less)) = false := by
    by_cases rank : k = .percentile <;> simp_all
  unfold keywordForm
  rw [if_neg notTrue, if_neg notFalse]
  simp only [noString, notInterval, notRank, noCall, named]
  cases k.family? <;> simp

/-- A word that may name a field does so where the operand ends or a dot follows. -/
theorem primaryForm_word {s : String} (named : (Keyword.ofWord? s).all Keyword.canNameField = true)
    (ends : EndsOperand ts ∨ firstKind ts = some (.mark .dot))
    (free : ¬(Follow.ofKind (firstKind ts)).captures s) :
    primaryForm (.word s :: ts) = .field := by
  have noString : (firstKind ts).any TokenKind.isString = false := by
    rcases ends with ends | dot
    · exact ends.2.2
    · simp [dot, TokenKind.isString]
  have noCall : firstKind ts ≠ some (.mark .lParen) := by
    rcases ends with ends | dot
    · exact ends.2.1
    · simp [dot]
  rcases Scan.nameKind_cases s.toList with ⟨k, kind, word⟩ | kind
  · rw [String.ofList_toList] at word
    have form : primaryForm (.word s :: ts) = keywordForm k (firstKind ts) := by
      simp [primaryForm, Lexeme.word, kind]
    rw [form]
    refine keywordForm_field (by simpa [word] using named) noString noCall ?_ ?_
    · rintro rfl
      by_contra starts
      refine free (.inl ⟨?_, word⟩)
      cases next : firstKind ts with
      | none => simp [next] at starts
      | some kind =>
        have starts : startsIntervalValue kind = true := by simpa [next] using starts
        have notLess : kind ≠ .mark .less := by
          rintro rfl
          cases starts
        simp [Follow.ofKind, notLess, starts]
    · rintro rfl less
      exact free (.inr ⟨by simp [less, Follow.ofKind], word⟩)
  · simp [primaryForm, Lexeme.word, kind, noCall]

/-- In front of nothing in particular, no name is taken for something else. -/
theorem not_captures_other (s : String) : ¬Follow.other.captures s := by
  simp [Follow.captures]

/-- So does a name that is written back. -/
theorem primaryForm_nameLexemes {name : String} (ends : EndsOperand ts)
    (free : ¬(Follow.ofKind (firstKind ts)).captures name) :
    primaryForm (nameLexemes name ++ ts) = .field := by
  unfold nameLexemes
  split
  · next plain =>
    obtain ⟨part, parts, split, whole, -⟩ := exists_dottedParts name.toList
    simp only [isPlainName, split, Bool.and_eq_true, List.all_eq_true] at plain
    have named := named_of_isPlainPart (plain.2 part (by simp))
    rw [split, dottedLexemes, List.cons_append]
    cases parts with
    | nil =>
      have only : String.ofList part = name := by
        apply String.toList_inj.mp
        simpa using whole.symm
      exact primaryForm_word named (.inl ends) (only ▸ free)
    | cons p parts => exact primaryForm_word named (.inr rfl) (not_captures_other _)
  · rfl

/-- A field is read back. -/
theorem unary_field {name : String} (ends : EndsOperand ts)
    (free : ¬(Follow.ofKind (firstKind ts)).captures name) :
    (level (n + 1)).unary (nameLexemes name ++ ts) = ⟨.ok (.field name), ts, []⟩ := by
  have form := primaryForm_nameLexemes ends free
  rw [unary_of_form (by simp [form])]
  simp [primary, form, fieldName, qualifiedName_nameLexemes false name ends.1]

end Fields

end Grammar

end PipedQuery
