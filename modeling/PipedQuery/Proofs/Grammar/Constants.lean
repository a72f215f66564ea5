import PipedQuery.Grammar.Call
import PipedQuery.Proofs.Expr.Readable
import PipedQuery.Proofs.Grammar.Lists
import PipedQuery.Proofs.Grammar.Names

/-!
# Reading constants back

The constants of options, parameters and weights are read from their lexemes.
-/

namespace PipedQuery

theorem unquote_string (s : String) : (unquote (Lexeme.string s).text).value = s := by
  rw [Lexeme.string, unquote_writeString]

theorem Decimal.lexeme_isNumber (d : Decimal) : d.lexeme.kind.isNumber = true := by
  by_cases integer : d.scale = 0 <;> simp [Decimal.lexeme, integer, TokenKind.isNumber]

theorem Decimal.lexeme_ofInt (n : Int) : (Decimal.ofInt n).lexeme = .integer n.natAbs := by
  have text : Decimal.digits n.natAbs 0 = (toString n.natAbs).toList := by
    have digits : (toString n.natAbs).toList = Nat.toDigits 10 n.natAbs := Nat.toList_repr
    have some : 0 < (Nat.toDigits 10 n.natAbs).length :=
      List.length_pos_iff.mpr Nat.toDigits_ne_nil
    rw [digits]
    change List.replicate (0 + 1 - (Nat.toDigits 10 n.natAbs).length) '0' ++ _ = _
    rw [show 0 + 1 - (Nat.toDigits 10 n.natAbs).length = 0 by omega]
    rfl
  rw [Decimal.lexeme, Decimal.ofInt, if_pos rfl, text, String.ofList_toList, Lexeme.integer]

namespace Parser

variable {ts rest : List Lexeme}

theorem unsignedLiteral_number {l : Lexeme} {value : Literal} (isNumber : l.kind.isNumber = true)
    (h : numberLiteral? l = some value) (ts : List Lexeme) :
    unsignedLiteral (l :: ts) = ⟨.ok value, ts, []⟩ := by
  have kinds : l.kind = .integer ∨ l.kind = .decimal := by
    cases kind : l.kind <;> simp_all [TokenKind.isNumber]
  rcases kinds with kind | kind <;> simp [unsignedLiteral, kind, h]

theorem literal_of_not_negative (h : startsNegative ts = false) :
    literal ts = unsignedLiteral ts := by
  simp [literal, h]

theorem literal_of_negative {l : Lexeme} {value : Literal} (isNumber : l.kind.isNumber = true)
    (h : numberLiteral? l = some value) (ts : List Lexeme) :
    literal (.mark .minus :: l :: ts) = ⟨.ok value.neg, ts, []⟩ := by
  have starts : startsNegative (.mark .minus :: l :: ts) = true := by
    simp [startsNegative, isNumber]
  simp [literal, starts, unsignedLiteral_number isNumber h]

theorem literal_of_number {l : Lexeme} {value : Literal} (isNumber : l.kind.isNumber = true)
    (h : numberLiteral? l = some value) (ts : List Lexeme) :
    literal (l :: ts) = ⟨.ok value, ts, []⟩ := by
  have starts : startsNegative (l :: ts) = false := by
    have : l.kind ≠ .mark .minus := by
      intro minus
      simp [minus, TokenKind.isNumber] at isNumber
    simp [startsNegative, this]
  rw [literal_of_not_negative starts, unsignedLiteral_number isNumber h]

/-- A number with its sign is read as a constant. -/
theorem literal_signed (negative : Bool) {l : Lexeme} {value : Literal}
    (isNumber : l.kind.isNumber = true) (h : numberLiteral? l = some value) (ts : List Lexeme) :
    literal ((if negative then [.mark .minus, l] else [l]) ++ ts) =
      ⟨.ok (if negative then value.neg else value), ts, []⟩ := by
  cases negative with
  | false => exact literal_of_number isNumber h ts
  | true => exact literal_of_negative isNumber h ts

theorem literal_int {n : Int} (small : IsIntConstant n) (ts : List Lexeme) :
    literal ((Literal.int n).lexemes ++ ts) = ⟨.ok (.int n), ts, []⟩ := by
  have found := literal_signed (decide (n < 0)) (Lexeme.integer_kind n.natAbs ▸ rfl)
    (numberLiteral?_integer small) ts
  have value : (if decide (n < 0) = true then (Literal.int n.natAbs).neg else .int n.natAbs) =
      Literal.int n := by
    by_cases negative : n < 0
    · simp only [negative, decide_true, if_true, Literal.neg]
      congr 1
      omega
    · simp only [negative, decide_false, Bool.false_eq_true, if_false]
      congr 1
      omega
  rw [value] at found
  rw [← found]
  simp [Literal.lexemes]

theorem literal_decimal {d : Decimal} (constant : d.IsConstant) (ts : List Lexeme) :
    literal (d.lexemes ++ ts) = ⟨.ok (.decimal d), ts, []⟩ := by
  have found := literal_signed d.negative d.lexeme_isNumber
    (numberLiteral?_decimal constant) ts
  rw [Decimal.lexemes, found]
  obtain ⟨negative, mantissa, scale⟩ := d
  cases negative <;> rfl

/-- The value of an option is read back as a constant. -/
theorem literal_lexemes {value : Literal} (readable : value.IsOptionValue) (ts : List Lexeme) :
    literal (value.lexemes ++ ts) = ⟨.ok value, ts, []⟩ := by
  cases value with
  | int n => exact literal_int readable ts
  | decimal d => exact literal_decimal readable ts
  | str s =>
    have starts : startsNegative (.string s :: ts) = false := by simp [startsNegative]
    rw [Literal.lexemes, List.singleton_append, literal_of_not_negative starts]
    simp [unsignedLiteral, unquote_string]
  | bool b =>
    have starts : startsNegative ((boolKeyword b).lexeme :: ts) = false := by simp [startsNegative]
    rw [Literal.lexemes, List.singleton_append, literal_of_not_negative starts]
    cases b <;> simp [unsignedLiteral, boolKeyword]
  | date kind s => cases readable

theorem optionValue_lexemes {value : Literal} (readable : value.IsOptionValue) (ts : List Lexeme) :
    optionValue (value.lexemes ++ ts) = ⟨.ok value, ts, []⟩ := by
  have same : optionValue (value.lexemes ++ ts) = literal (value.lexemes ++ ts) := by
    cases value with
    | int n => by_cases negative : n < 0 <;> simp [optionValue, Literal.lexemes, negative]
    | decimal d =>
      by_cases integer : d.scale = 0 <;> cases negative : d.negative <;>
        simp [optionValue, Literal.lexemes, Decimal.lexemes, negative, Decimal.lexeme, integer]
    | str s => simp [optionValue, Literal.lexemes]
    | bool b => cases b <;> simp [optionValue, Literal.lexemes, boolKeyword]
    | date kind s => cases readable
  rw [same, literal_lexemes readable]

/-- An option is read back. -/
theorem namedOption_lexemes (function : Keyword) {o : NamedOption} (readable : o.IsReadable)
    (ts : List Lexeme) : namedOption function (o.lexemes ++ ts) = ⟨.ok (some o), ts, []⟩ := by
  obtain ⟨⟨k, isOption, name⟩, value⟩ := readable
  obtain ⟨name', value'⟩ := o
  obtain rfl : name' = k.lowercase := name
  have word : Lexeme.word k.lowercase = k.lexeme := Lexeme.word_lowercase k
  simp [namedOption, NamedOption.lexemes, word, expectMark, expect_of_eq _ (Lexeme.mark_kind _),
    optionValue_lexemes value, TokenKind.keyword?, isOption, Option.filter]

theorem weight_lexemes {d : Decimal} (readable : d.IsWeight) (ts : List Lexeme) :
    weight (d.lexemes ++ ts) = ⟨.ok d, ts, []⟩ := by
  rcases readable with constant | ⟨n, small, rfl⟩
  · simp [weight, literal_decimal constant]
  · have lexemes : (Decimal.ofInt n).lexemes = (Literal.int n).lexemes := by
      rw [Decimal.lexemes, Decimal.lexeme_ofInt]
      simp [Decimal.ofInt, Literal.lexemes]
    rw [lexemes]
    simp [weight, literal_int small]

theorem string?_string (s : String) (ts : List Lexeme) :
    string? (.string s :: ts) = ⟨.ok (some s), ts, []⟩ := by
  simp [string?, TokenKind.isString, unquote_string]

theorem string_string (s : String) (ts : List Lexeme) :
    string (.string s :: ts) = ⟨.ok s, ts, []⟩ := by
  simp [string, string?_string]

/-- An entry of a list of weighted fields is read back. -/
theorem weightedField_lexemes {f : WeightedField} (readable : f.IsReadable)
    (ends : firstKind rest ≠ some (.mark .caret)) :
    weightedField (f.lexemes ++ rest) = ⟨.ok f, rest, []⟩ := by
  obtain ⟨field, found⟩ := f
  cases found with
  | none => simp [weightedField, WeightedField.lexemes, string?_string, eatMark, eat_of_ne ends]
  | some d =>
    simp [weightedField, WeightedField.lexemes, string?_string, eatMark,
      eat_of_eq _ (Lexeme.mark_kind _), weight_lexemes (readable d rfl)]

/-- A list of weighted fields is read back with its brackets. -/
theorem weightedFields_lexemes {fields : List WeightedField} (some : fields ≠ [])
    (readable : ∀ f ∈ fields, f.IsReadable) (ts : List Lexeme) :
    weightedFields ((Expr.weighted fields).lexemes ++ ts) = ⟨.ok (.weighted fields), ts, []⟩ := by
  cases fields with
  | nil => exact absurd rfl some
  | cons f fields =>
    have reads : ReadsItems weightedField WeightedField.lexemes (f :: fields)
        (.mark .rBracket :: ts) := by
      refine .of_forall fun g member more ends => weightedField_lexemes (readable g member) ?_
      rcases ends with rfl | comma
      · simp
      · simp [comma]
    have items := list_run reads (by simp)
    simp only [weightedFields, Expr.lexemes, expectMark, bind_run, List.cons_append,
      List.append_assoc, List.nil_append, expect_of_eq _ (Lexeme.mark_kind _), Outcome.bind_ok,
      Outcome.after_nil]
    rw [items, Outcome.bind_ok, bind_run, expect_of_eq _ (Lexeme.mark_kind _)]
    rfl

end Parser

end PipedQuery
