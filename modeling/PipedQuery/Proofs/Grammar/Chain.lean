import PipedQuery.Grammar.Expression
import PipedQuery.Proofs.Parser.Run

/-!
# The parsers of operators

What `Parser.chain` comes to, one operator at a time, what `Parser.comparison` comes to with a
comparison, with a membership test and without either, and `Parser.negation` with `not` and without.
-/

namespace PipedQuery

namespace Parser

variable {operand : StageParser Expr} {op? : StageParser (Option BinaryOp)} {ts rest : List Lexeme}
  {op : BinaryOp} {left right : Expr} {issue : Issue}

/-- The step of the loop over the operators of one level. -/
def chainStep (operand : StageParser Expr) (op? : StageParser (Option BinaryOp)) (left : Expr) :
    StageParser (Option Expr) := do
  match ← op? with
  | some op => return some (.binary op left (← operand))
  | none => return none

theorem chain_run (operand : StageParser Expr) (op? : StageParser (Option BinaryOp))
    (ts : List Lexeme) :
    chain operand op? ts = (operand ts).bind (iterate (chainStep operand op?)) := rfl

theorem chainStep_of_none (h : op? ts = ⟨.ok none, ts, []⟩) :
    chainStep operand op? left ts = ⟨.ok none, ts, []⟩ := by
  simp [chainStep, h]

theorem chainStep_of_some (operand : StageParser Expr) (left : Expr)
    (h : op? ts = ⟨.ok (some op), rest, []⟩) :
    chainStep operand op? left ts =
      (operand rest).bind fun right => pure (some (.binary op left right)) := by
  simp [chainStep, h]

/-- A chain without an operator is its operand. -/
theorem chain_of_none (found : operand ts = ⟨.ok left, rest, []⟩)
    (stop : op? rest = ⟨.ok none, rest, []⟩) : chain operand op? ts = ⟨.ok left, rest, []⟩ := by
  rw [chain_run, found, Outcome.bind_ok, iterate_of_none (chainStep_of_none stop)]
  rfl

/-- A chain with one operator is that operator between its two operands. -/
theorem chain_of_one {behind tail : List Lexeme} (found : operand ts = ⟨.ok left, rest, []⟩)
    (operator : op? rest = ⟨.ok (some op), behind, []⟩)
    (follow : operand behind = ⟨.ok right, tail, []⟩) (stop : op? tail = ⟨.ok none, tail, []⟩)
    (shorter : tail.length < rest.length) :
    chain operand op? ts = ⟨.ok (.binary op left right), tail, []⟩ := by
  have step := chainStep_of_some operand left operator
  rw [follow, Outcome.bind_ok, pure_run, Outcome.after_nil] at step
  rw [chain_run, found, Outcome.bind_ok, iterate_of_some step shorter,
    iterate_of_none (chainStep_of_none stop)]
  rfl

theorem operator?_of_none {find : TokenKind → Option BinaryOp}
    (h : (firstKind ts).bind find = none) : operator? find ts = ⟨.ok none, ts, []⟩ := by
  simp [operator?, h]

theorem operator?_of_some {find : TokenKind → Option BinaryOp}
    (h : (firstKind ts).bind find = some op) : operator? find ts = ⟨.ok (some op), ts.tail, []⟩ := by
  simp [operator?, h]

theorem keywordOperator?_of_ne {k : Keyword} (h : firstKind ts ≠ some (.keyword k)) :
    keywordOperator? k op ts = ⟨.ok none, ts, []⟩ := by
  simp [keywordOperator?, eatKeyword, eat_of_ne h]

theorem keywordOperator?_of_eq {k : Keyword} {l : Lexeme} (h : l.kind = .keyword k) :
    keywordOperator? k op (l :: ts) = ⟨.ok (some op), ts, []⟩ := by
  simp [keywordOperator?, eatKeyword, eat_of_eq ts h]

/-- Without an `and` and without a word that implies one, there is none. -/
theorem andOperator?_of_none (written : firstKind ts ≠ some (.keyword .and_))
    (implied : startsImpliedOperand ts = false) : andOperator? ts = ⟨.ok none, ts, []⟩ := by
  simp [andOperator?, eatKeyword, eat_of_ne written, implied]

section Comparison

variable {additive : StageParser Expr}

/-- A sum behind which nothing is compared is a condition. -/
theorem comparison_of_none (expression : StageParser Expr) (found : additive ts = ⟨.ok left, rest, []⟩)
    (noTest : firstKind rest ≠ some (.keyword .in_)) (noOperator : comparison? rest = none) :
    comparison additive expression ts = ⟨.ok left, rest, []⟩ := by
  simp [comparison, comparisonTail?, found, eatKeyword, eat_of_ne noTest, noOperator]

/-- A comparison takes one sum on each side. -/
theorem comparison_of_some {behind : List Lexeme} (expression : StageParser Expr)
    (found : additive ts = ⟨.ok left, rest, []⟩)
    (operator : comparison? rest = some op)
    (follow : additive rest.tail = ⟨.ok right, behind, []⟩) :
    comparison additive expression ts =
      if startsComparison behind then ⟨.error ⟨.chainedComparison, behind.length⟩, behind, []⟩
      else ⟨.ok (.binary op left right), behind, []⟩ := by
  have noTest : firstKind rest ≠ some (.keyword .in_) := by
    intro test
    simp [comparison?, test] at operator
  simp only [comparison, comparisonTail?, found, eatKeyword, eat_of_ne noTest, operator, bind_run,
    Outcome.bind_ok, Outcome.after_nil, Bool.false_eq_true, if_false, lexemes_run, skip_run,
    List.drop_one, follow, pure_run]
  split <;> simp [*]

/-- A membership test takes a list of values. -/
theorem comparison_of_in {expression : StageParser Expr} {items : List Expr} {behind : List Lexeme}
    (found : additive ts = ⟨.ok left, rest, []⟩) (test : firstKind rest = some (.keyword .in_))
    (follow : valueList expression rest.tail = ⟨.ok items, behind, []⟩)
    (ends : startsComparison behind = false) :
    comparison additive expression ts = ⟨.ok (.inList left items), behind, []⟩ := by
  cases rest with
  | nil => cases test
  | cons l rest =>
    have word : l.kind = .keyword .in_ := by simpa using test
    rw [List.tail_cons] at follow
    simp [comparison, comparisonTail?, found, eatKeyword, eat_of_eq rest word, follow, ends]

end Comparison

theorem negation_of_ne (deeper comparison : StageParser Expr)
    (h : firstKind ts ≠ some (.keyword .not_)) : negation deeper comparison ts = comparison ts := by
  simp [negation, eatKeyword, eat_of_ne h]

/-- `not` negates what is read behind it. -/
theorem negation_of_eq (deeper comparison : StageParser Expr) {l : Lexeme}
    (h : l.kind = .keyword .not_) (found : deeper ts = ⟨.ok left, rest, []⟩) :
    negation deeper comparison (l :: ts) = ⟨.ok (.unary .not left), rest, []⟩ := by
  simp [negation, eatKeyword, eat_of_eq ts h, found]

end Parser

end PipedQuery
