import PipedQuery.Proofs.Grammar.Chain
import PipedQuery.Proofs.Parser.Depth

/-!
# Expressions for which fewer levels are left

The grammar for fewer levels does what that for more levels does, unless it refuses an expression
because that is nested too deeply (`Grammar.limited_level`).
-/

namespace PipedQuery

namespace Parser

/-! Calls and special forms. -/

section Forms

variable {expression expression' additive additive' : StageParser Expr}
  [Limited expression expression'] [Limited additive additive']

instance (function : Keyword) (required : Nat) (a : RelevanceArguments) :
    Limited (relevanceArgument expression function required a)
      (relevanceArgument expression' function required a) := by
  unfold relevanceArgument
  infer_instance

instance (function : Keyword) : Limited (relevanceArguments expression function)
    (relevanceArguments expression' function) := by
  unfold relevanceArguments
  infer_instance

instance : Limited (arguments expression) (arguments expression') := by
  unfold arguments
  infer_instance

instance : Limited (positionArguments expression additive)
    (positionArguments expression' additive') := by
  unfold positionArguments
  infer_instance

instance : Limited (extractArguments expression) (extractArguments expression') := by
  refine .bind fun ts => ?_
  cases ts <;> infer_instance

instance : Limited (rankedArguments expression) (rankedArguments expression') := by
  unfold rankedArguments
  infer_instance

instance (function : Keyword) (family : FunctionFamily) :
    Limited (callArguments expression additive function family)
      (callArguments expression' additive' function family) := by
  unfold callArguments
  infer_instance

instance (function : Keyword) (family : FunctionFamily) :
    Limited (call expression additive function family)
      (call expression' additive' function family) := by
  unfold call
  infer_instance

instance : Limited (interval additive) (interval additive') := by
  unfold interval
  infer_instance

instance : Limited (branch expression) (branch expression') := by
  unfold branch
  infer_instance

instance : Limited (case expression) (case expression') := by
  refine .bind fun _ => .bind fun _ => .bind fun branches => .bind fun ts => ?_
  dsimp only
  infer_instance

instance : Limited (cast expression) (cast expression') := by
  unfold cast
  infer_instance

end Forms

/-! Levels of expressions. -/

section Levels

variable {operand operand' additive additive' deeper deeper' : StageParser Expr}
  {expression expression' : StageParser Expr}
  [Limited operand operand'] [Limited additive additive'] [Limited deeper deeper']
  [Limited expression expression']

instance (op? : StageParser (Option BinaryOp)) :
    Limited (chain operand op?) (chain operand' op?) := by
  have step (left : Expr) :
      Limited (chainStep operand op? left) (chainStep operand' op? left) := by
    refine .bind fun op => ?_
    cases op <;> infer_instance
  have loop (first : Expr) :
      Limited (iterate (chainStep operand op?) first) (iterate (chainStep operand' op?) first) :=
    inferInstance
  exact .bind loop

instance : Limited (valueList expression) (valueList expression') := by
  unfold valueList
  infer_instance

instance (left : Expr) : Limited (comparisonTail? additive expression left)
    (comparisonTail? additive' expression' left) := by
  refine .bind fun found => ?_
  split
  · infer_instance
  · refine .bind fun ts => ?_
    cases comparison? ts <;> infer_instance

instance : Limited (comparison additive expression) (comparison additive' expression') := by
  refine .bind fun left => .bind fun tail => ?_
  cases tail <;> infer_instance

instance : Limited (negation deeper operand) (negation deeper' operand') := by
  unfold negation
  infer_instance

instance : Limited (logical operand) (logical operand') := by
  unfold logical
  infer_instance

end Levels

end Parser

namespace Grammar

open PipedQuery.Parser

/-- Whether every parser of the first grammar is that of the second one, apart from how deep it may
    go. -/
structure Limited (g g' : StageGrammar) : Prop where
  expression : Parser.Limited g.expression g'.expression
  negation : Parser.Limited g.negation g'.negation
  additive : Parser.Limited g.additive g'.additive
  unary : Parser.Limited g.unary g'.unary

variable {g g' : StageGrammar}

theorem limited_ofUnary {unary unary' deeper deeper' : StageParser Expr}
    (hunary : Parser.Limited unary unary') (hdeeper : Parser.Limited deeper deeper') :
    (ofUnary unary deeper).Limited (ofUnary unary' deeper') := by
  have additive : Parser.Limited (ofUnary unary deeper).additive (ofUnary unary' deeper').additive :=
    inferInstanceAs (Parser.Limited (chain (chain unary _) _) (chain (chain unary' _) _))
  have condition (p q : StageParser Expr) (_ : Parser.Limited p q) :
      Parser.Limited
        (Parser.negation deeper (comparison (ofUnary unary deeper).additive p))
        (Parser.negation deeper' (comparison (ofUnary unary' deeper').additive q)) :=
    inferInstance
  -- The list of a membership test is read by the parser that is being defined.
  have expression :
      Parser.Limited (ofUnary unary deeper).expression (ofUnary unary' deeper').expression :=
    limited_fix fun p q limited => by
      have := condition p q limited
      exact inferInstanceAs (Parser.Limited (logical _) (logical _))
  exact ⟨expression, condition _ _ expression, additive, hunary⟩

theorem limited_primary (h : g.Limited g') : Parser.Limited (primary g) (primary g') := by
  have := h.expression
  have := h.additive
  refine .bind fun ts => ?_
  cases form : primaryForm ts with
  | date kind =>
    match ts with
    | [] | [l] | l :: m :: ts => infer_instance
  | _ => cases ts <;> infer_instance

theorem limited_signed (h : g.Limited g') : Parser.Limited (signed g) (signed g') := by
  have := h.unary
  have := limited_primary h
  unfold signed
  infer_instance

/-- With fewer levels left, less is read, and what is read is read alike. -/
theorem limited_level {m n : Nat} (fewer : m ≤ n) : (level m).Limited (level n) := by
  induction m generalizing n with
  | zero =>
    cases n with
    | zero => exact limited_ofUnary (limited_fail _) (limited_fail _)
    | succ n => exact limited_ofUnary (limited_fail _) (limited_fail _)
  | succ m ih =>
    cases n with
    | zero => cases fewer
    | succ n =>
      have deeper := ih (Nat.le_of_succ_le_succ fewer)
      exact limited_ofUnary (limited_signed deeper) deeper.negation

end Grammar

end PipedQuery
