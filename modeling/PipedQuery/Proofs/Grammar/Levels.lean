import PipedQuery.Proofs.Grammar.Chain
import PipedQuery.Proofs.Grammar.Knot
import PipedQuery.Proofs.Grammar.Operators

/-!
# The levels of the expression grammar

What each level of the grammar makes of lexemes that a tighter level has read, depending on what
stands behind them, and where no level finds an expression (`Grammar.result_expression_ne_ok`).
-/

namespace PipedQuery

/-- Whether an expression ends at the lexemes whatever it is: at nothing, at a closing parenthesis,
    at a comma, at `as` or at `else`. -/
def Closes (rest : List Lexeme) : Prop :=
  ∀ l ∈ rest.head?, l.kind = .mark .rParen ∨ l.kind = .mark .comma ∨ l.kind = .keyword .as_ ∨
    (l.kind = .identifier ∧ isElse l.text = true)

/-- Whether a sum ends at the lexemes. -/
def EndsSum (rest : List Lexeme) : Prop :=
  (firstKind rest).bind multiplicativeOp? = none ∧ (firstKind rest).bind additiveOp? = none

/-- Whether a condition without logical operators ends at the lexemes. -/
def EndsComparison (rest : List Lexeme) : Prop :=
  EndsSum rest ∧ comparison? rest = none ∧ firstKind rest ≠ some (.keyword .in_)

/-- What closes an expression ends a comparison. -/
theorem Closes.endsComparison {rest : List Lexeme} (closes : Closes rest) : EndsComparison rest := by
  cases rest with
  | nil => exact ⟨⟨rfl, rfl⟩, rfl, by simp⟩
  | cons l rest =>
    rcases closes l rfl with kind | kind | kind | ⟨kind, -⟩ <;>
      simp [EndsComparison, EndsSum, comparison?, kind, multiplicativeOp?, additiveOp?]

theorem Closes.startsComparison {rest : List Lexeme} (closes : Closes rest) :
    startsComparison rest = false := by
  obtain ⟨-, noOperator, noTest⟩ := closes.endsComparison
  simp [PipedQuery.startsComparison, noOperator, noTest]

theorem Closes.startsImpliedOperand {rest : List Lexeme} (closes : Closes rest) :
    startsImpliedOperand rest = false := by
  cases rest with
  | nil => rfl
  | cons l rest =>
    rcases closes l rfl with kind | kind | kind | ⟨kind, word⟩
    · simp [PipedQuery.startsImpliedOperand, kind]
    · simp [PipedQuery.startsImpliedOperand, kind]
    · simp [PipedQuery.startsImpliedOperand, kind]
    · simp [PipedQuery.startsImpliedOperand, kind, word]

theorem Closes.ne_keyword {rest : List Lexeme} (closes : Closes rest) {k : Keyword}
    (other : k ≠ .as_) : firstKind rest ≠ some (.keyword k) := by
  cases rest with
  | nil => simp
  | cons l rest =>
    rcases closes l rfl with kind | kind | kind | ⟨kind, -⟩ <;> simp [kind, Ne.symm other]

namespace Parser

variable {ts rest behind tail : List Lexeme} {left right e : Expr} {op : BinaryOp}

/-- A product, made of signed operands. -/
def product (unary : StageParser Expr) : StageParser Expr := chain unary (operator? multiplicativeOp?)

/-- A sum, made of signed operands. -/
def sum (unary : StageParser Expr) : StageParser Expr := chain (product unary) (operator? additiveOp?)

section Sum

variable {unary : StageParser Expr}

/-- A single operand is a product. -/
theorem product_of_unary (found : unary ts = ⟨.ok e, rest, []⟩)
    (ends : (firstKind rest).bind multiplicativeOp? = none) :
    product unary ts = ⟨.ok e, rest, []⟩ :=
  chain_of_none found (operator?_of_none ends)

/-- A single operand is a sum. -/
theorem sum_of_unary (found : unary ts = ⟨.ok e, rest, []⟩) (ends : EndsSum rest) :
    sum unary ts = ⟨.ok e, rest, []⟩ :=
  chain_of_none (product_of_unary found ends.1) (operator?_of_none ends.2)

/-- Two operands with an arithmetic operator between them are a sum. -/
theorem sum_of_binary (tight : op.looseness ≤ 2)
    (found : unary ts = ⟨.ok left, op.lexeme :: behind, []⟩)
    (follow : unary behind = ⟨.ok right, rest, []⟩) (ends : EndsSum rest)
    (shorter : rest.length ≤ behind.length) :
    sum unary ts = ⟨.ok (.binary op left right), rest, []⟩ := by
  have shorter' : rest.length < (op.lexeme :: behind).length := Nat.lt_succ_of_le shorter
  by_cases product : op.looseness = 1
  · have operator : multiplicativeOp? op.kind = some op := by
      cases op <;> first | rfl | simp [BinaryOp.looseness] at product
    refine chain_of_none (chain_of_one found (operator?_of_some ?_) follow
      (operator?_of_none ends.1) shorter') (operator?_of_none ends.2)
    simpa using operator
  · have apart : multiplicativeOp? op.kind = none ∧ additiveOp? op.kind = some op := by
      cases op <;> first | exact ⟨rfl, rfl⟩ | simp [BinaryOp.looseness] at product tight
    refine chain_of_one (product_of_unary found ?_) (operator?_of_some ?_)
      (product_of_unary follow ends.1) (operator?_of_none ends.2) shorter'
    · simpa using apart.1
    · simpa using apart.2

end Sum

section Condition

variable {additive deeper expression : StageParser Expr}

/-- A sum that nothing is compared with is a condition. -/
theorem negation_of_sum (noSign : firstKind ts ≠ some (.keyword .not_))
    (found : additive ts = ⟨.ok e, rest, []⟩) (ends : EndsComparison rest) :
    negation deeper (comparison additive expression) ts = ⟨.ok e, rest, []⟩ := by
  rw [negation_of_ne _ _ noSign, comparison_of_none expression found ends.2.2 ends.2.1]

end Condition

section Logical

variable {condition : StageParser Expr}

/-- A single condition is an expression. -/
theorem logical_of_closes (found : condition ts = ⟨.ok e, rest, []⟩) (closes : Closes rest) :
    logical condition ts = ⟨.ok e, rest, []⟩ :=
  chain_of_none (chain_of_none (chain_of_none found
    (andOperator?_of_none (closes.ne_keyword (by decide)) closes.startsImpliedOperand))
    (keywordOperator?_of_ne (closes.ne_keyword (by decide))))
    (keywordOperator?_of_ne (closes.ne_keyword (by decide)))

/-- Two conditions with a logical operator between them are an expression. -/
theorem logical_of_binary (isLogical : op.isLogical = true)
    (found : condition ts = ⟨.ok left, op.lexeme :: behind, []⟩)
    (follow : condition behind = ⟨.ok right, rest, []⟩) (closes : Closes rest)
    (shorter : rest.length ≤ behind.length) :
    logical condition ts = ⟨.ok (.binary op left right), rest, []⟩ := by
  have shorter' : rest.length < (op.lexeme :: behind).length := Nat.lt_succ_of_le shorter
  have noAnd := andOperator?_of_none (closes.ne_keyword (by decide)) closes.startsImpliedOperand
  have noOr : keywordOperator? .or_ .or rest = ⟨.ok none, rest, []⟩ :=
    keywordOperator?_of_ne (closes.ne_keyword (by decide))
  have noXor : keywordOperator? .xor_ .xor rest = ⟨.ok none, rest, []⟩ :=
    keywordOperator?_of_ne (closes.ne_keyword (by decide))
  cases op with
  | and =>
    have operator : andOperator? (BinaryOp.and.lexeme :: behind) = ⟨.ok (some .and), behind, []⟩ := by
      simp [andOperator?, eatKeyword, eat_run, BinaryOp.kind]
    exact chain_of_none (chain_of_none (chain_of_one found operator follow noAnd shorter') noOr) noXor
  | or =>
    have skipped : andOperator? (BinaryOp.or.lexeme :: behind) =
        ⟨.ok none, BinaryOp.or.lexeme :: behind, []⟩ :=
      andOperator?_of_none (by simp [BinaryOp.kind]) rfl
    exact chain_of_none (chain_of_one (chain_of_none found skipped) (keywordOperator?_of_eq rfl)
      (chain_of_none follow noAnd) noOr shorter') noXor
  | xor =>
    have skipped : andOperator? (BinaryOp.xor.lexeme :: behind) =
        ⟨.ok none, BinaryOp.xor.lexeme :: behind, []⟩ :=
      andOperator?_of_none (by simp [BinaryOp.kind]) rfl
    have skipped' : keywordOperator? .or_ .or (BinaryOp.xor.lexeme :: behind) =
        ⟨.ok none, BinaryOp.xor.lexeme :: behind, []⟩ :=
      keywordOperator?_of_ne (by simp [BinaryOp.kind])
    exact chain_of_one (chain_of_none (chain_of_none found skipped) skipped')
      (keywordOperator?_of_eq rfl) (chain_of_none (chain_of_none follow noAnd) noOr) noXor shorter'
  | _ => cases isLogical

end Logical

end Parser

namespace Grammar

open PipedQuery.Parser

/-- The parser of what `not` negates, of one level less. -/
def deeperNegation : Nat → StageParser Expr
  | 0 => fail .nestedTooDeeply
  | n + 1 => (level n).negation

theorem additive_level (n : Nat) : (level n).additive = sum (level n).unary := by
  cases n <;> rfl

theorem negation_level (n : Nat) :
    (level n).negation =
      Parser.negation (deeperNegation n) (comparison (level n).additive (level n).expression) := by
  cases n <;> rfl

/-- Behind a sum that closes, the whole expression is the sum. -/
theorem expression_of_sum {n : Nat} {ts rest : List Lexeme} {e : Expr}
    (noSign : firstKind ts ≠ some (.keyword .not_))
    (found : (level n).additive ts = ⟨.ok e, rest, []⟩) (closes : Closes rest) :
    (level n).expression ts = ⟨.ok e, rest, []⟩ := by
  rw [expression_level, negation_level]
  exact logical_of_closes (negation_of_sum noSign found closes.endsComparison) closes

/-- Behind an operand that closes, the whole expression is the operand. -/
theorem expression_of_unary {n : Nat} {ts rest : List Lexeme} {e : Expr}
    (noSign : firstKind ts ≠ some (.keyword .not_))
    (found : (level n).unary ts = ⟨.ok e, rest, []⟩) (closes : Closes rest) :
    (level n).expression ts = ⟨.ok e, rest, []⟩ :=
  expression_of_sum noSign (additive_level n ▸ sum_of_unary found closes.endsComparison.1) closes

end Grammar

/-! Where no expression starts. -/

namespace Parser

variable {ls : List Lexeme}

/-- A parser that gives nothing to its continuation gives nothing. -/
theorem result_bind_ne_ok {α β : Type} {p : StageParser α} {f : α → StageParser β}
    (stops : ∀ a, (p ls).result ≠ .ok a) (b : β) : ((p >>= f) ls).result ≠ .ok b := by
  cases found : (p ls).result with
  | ok a => exact absurd found (stops a)
  | error issue =>
    rw [(rest_bind_of_error found).2]
    rintro ⟨⟩

/-- A chain whose operand is not read is not read. -/
theorem result_chain_ne_ok {operand : StageParser Expr} {op? : StageParser (Option BinaryOp)}
    (stops : ∀ a, (operand ls).result ≠ .ok a) (x : Expr) :
    (chain operand op? ls).result ≠ .ok x :=
  result_bind_ne_ok stops x

end Parser

namespace Grammar

open PipedQuery.Parser

variable {ls : List Lexeme} (form : primaryForm ls = .none)
  (noSign : ∀ m, m = .minus ∨ m = .plus → firstKind ls ≠ some (.mark m))
include form noSign

theorem result_unary_ne_ok (n : Nat) (x : Expr) : ((level n).unary ls).result ≠ .ok x := by
  cases n with
  | zero => rintro ⟨⟩
  | succ n =>
    change (signed (level n) ls).result ≠ _
    cases ls <;>
      simp [signed, primary, eatMark, eat_of_ne (noSign .minus (.inl rfl)),
        eat_of_ne (noSign .plus (.inr rfl)), form]

theorem result_additive_ne_ok (n : Nat) (x : Expr) : ((level n).additive ls).result ≠ .ok x := by
  rw [additive_level]
  exact result_chain_ne_ok (result_chain_ne_ok (result_unary_ne_ok form noSign n)) x

/-- What is neither a sign nor the start of a primary expression does not start an expression. -/
theorem result_expression_ne_ok (noNot : firstKind ls ≠ some (.keyword .not_)) (n : Nat)
    (x : Expr) : ((level n).expression ls).result ≠ .ok x := by
  have condition (a : Expr) : ((level n).negation ls).result ≠ .ok a := by
    rw [negation_level, negation_of_ne _ _ noNot]
    exact result_bind_ne_ok (result_additive_ne_ok form noSign n) a
  rw [expression_level]
  exact result_chain_ne_ok (result_chain_ne_ok (result_chain_ne_ok condition)) x

end Grammar

end PipedQuery
