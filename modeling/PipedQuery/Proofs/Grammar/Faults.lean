import PipedQuery.Grammar.Extract
import PipedQuery.Proofs.Parser.Faults

/-!
# Warnings stop no command

All that can be wrong with an expression is an error (`Grammar.strict_level`).  A pattern may give
warnings, but no command stops at one (`Parser.stopsAtErrors_command`).
-/

namespace PipedQuery

namespace Parser

/-! Names and constants. -/

instance : Strict dottedPart? := by
  refine .bind fun ts => ?_
  split <;> infer_instance

instance (source : Bool) : Strict (qualifiedName source) := by
  have steps (name : String) : Strict (do
      match ← dottedPart? with
      | some part => return some (name ++ "." ++ part)
      | none => return none : StageParser (Option String)) := by
    refine .bind fun part => ?_
    cases part <;> infer_instance
  refine .bind fun l => ?_
  split <;> infer_instance

instance : Strict fieldName := inferInstanceAs (Strict (qualifiedName false))

instance : Strict alias? := by
  unfold alias?
  infer_instance

instance (l : Lexeme) : Strict (number l) := by
  refine .bind fun place => .bind fun _ => ?_
  split <;> infer_instance

instance (what : Expected) : Strict (plainNumber what) := by
  refine .bind fun l => ?_
  split <;> infer_instance

instance : Strict unsignedLiteral := by
  refine .bind fun l => ?_
  split
  · infer_instance
  · split
    case h_1 | h_2 => split <;> infer_instance
    all_goals infer_instance

instance : Strict literal := by
  unfold literal
  infer_instance

instance : Strict integer := by
  refine .bind fun place => .bind fun l => ?_
  split <;> infer_instance

instance : Strict integer? := by
  unfold integer?
  infer_instance

instance : Strict boolean := by
  unfold boolean
  infer_instance

instance : Strict string? := by
  refine .bind fun l => ?_
  split <;> infer_instance

instance : Strict string := by
  refine .bind fun s => ?_
  cases s <;> infer_instance

/-! Calls and special forms. -/

instance : Strict optionValue := by
  refine .bind fun ts => ?_
  split <;> infer_instance

instance (function : Keyword) : Strict (namedOption function) := by
  refine .bind fun place => .bind fun name => ?_
  split
  · infer_instance
  · refine .bind fun _ => .bind fun _ => .bind fun value => ?_
    split <;> infer_instance

instance : Strict weight := by
  refine .bind fun v => ?_
  cases v <;> infer_instance

instance : Strict weightedField := by
  refine .bind fun text => ?_
  cases text <;> infer_instance

instance : Strict weightedFields := by
  unfold weightedFields
  infer_instance

section Forms

variable (expression additive : StageParser Expr) [Strict expression] [Strict additive]

instance (function : Keyword) (required : Nat) (a : RelevanceArguments) :
    Strict (relevanceArgument expression function required a) := by
  unfold relevanceArgument
  infer_instance

instance (function : Keyword) : Strict (relevanceArguments expression function) := by
  unfold relevanceArguments
  infer_instance

instance : Strict (arguments expression) := by
  unfold arguments
  infer_instance

instance : Strict (positionArguments expression additive) := by
  unfold positionArguments
  infer_instance

instance : Strict (extractArguments expression) := by
  refine .bind fun ts => ?_
  cases ts <;> infer_instance

instance : Strict (rankedArguments expression) := by
  unfold rankedArguments
  infer_instance

instance (function : Keyword) (family : FunctionFamily) :
    Strict (callArguments expression additive function family) := by
  unfold callArguments
  infer_instance

instance (function : Keyword) (family : FunctionFamily) :
    Strict (call expression additive function family) := by
  refine .bind fun place => .bind fun _ => .bind fun r => ?_
  obtain ⟨args, options⟩ := r
  refine .bind fun _ => ?_
  split <;> infer_instance

instance : Strict (interval additive) := by
  refine .bind fun _ => .bind fun value => .bind fun ts => ?_
  split <;> infer_instance

instance : Strict (branch expression) := by
  unfold branch
  infer_instance

instance : Strict (case expression) := by
  refine .bind fun _ => .bind fun _ => .bind fun branches => .bind fun ts => ?_
  dsimp only
  infer_instance

instance : Strict typeName := by
  refine .bind fun ts => ?_
  split <;> infer_instance

instance : Strict (cast expression) := by
  unfold cast
  infer_instance

end Forms

/-! Levels of expressions. -/

section Levels

variable {operand additive deeper expression : StageParser Expr} [Strict operand] [Strict additive]
  [Strict deeper] [Strict expression] {op? : StageParser (Option BinaryOp)}

instance (op? : TokenKind → Option BinaryOp) : Strict (operator? op?) := by
  refine .bind fun ts => ?_
  split <;> infer_instance

instance (k : Keyword) (op : BinaryOp) : Strict (keywordOperator? k op) := by
  unfold keywordOperator?
  infer_instance

instance : Strict andOperator? := by
  unfold andOperator?
  infer_instance

instance [Strict op?] : Strict (chain operand op?) := by
  have steps (left : Expr) : Strict (do
      match ← op? with
      | some op => return some (.binary op left (← operand))
      | none => return none : StageParser (Option Expr)) := by
    refine .bind fun op => ?_
    cases op <;> infer_instance
  refine .bind fun first => ?_
  infer_instance

instance : Strict (logical operand) := by
  unfold logical
  infer_instance

instance : Strict (valueList expression) := by
  unfold valueList
  infer_instance

instance (left : Expr) : Strict (comparisonTail? additive expression left) := by
  refine .bind fun found => ?_
  split
  · infer_instance
  · refine .bind fun ts => ?_
    split <;> infer_instance

instance : Strict (comparison additive expression) := by
  refine .bind fun left => .bind fun tail => ?_
  cases tail <;> infer_instance

instance : Strict (negation deeper operand) := by
  unfold negation
  infer_instance

end Levels

end Parser

namespace Grammar

open PipedQuery.Parser

/-- Whether the grammar is made of strict parsers. -/
structure Strict (g : StageGrammar) : Prop where
  expression : Parser.Strict g.expression
  negation : Parser.Strict g.negation
  additive : Parser.Strict g.additive
  unary : Parser.Strict g.unary

theorem strict_ofUnary {unary deeperNegation : StageParser Expr} (hunary : Parser.Strict unary)
    (hdeeper : Parser.Strict deeperNegation) : (ofUnary unary deeperNegation).Strict := by
  have additive : Parser.Strict (ofUnary unary deeperNegation).additive :=
    inferInstanceAs (Parser.Strict (chain (chain unary _) _))
  have condition (p : StageParser Expr) (_ : Parser.Strict p) :
      Parser.Strict (Parser.negation deeperNegation
        (comparison (ofUnary unary deeperNegation).additive p)) := inferInstance
  -- The list of a membership test is read by the parser that is being defined.
  have expression : Parser.Strict (ofUnary unary deeperNegation).expression :=
    strict_fix fun p hp =>
      have := condition p hp
      inferInstanceAs (Parser.Strict (logical _))
  exact ⟨expression, condition _ expression, additive, hunary⟩

theorem strict_primary {deeper : StageGrammar} (h : deeper.Strict) :
    Parser.Strict (primary deeper) := by
  have := h.expression
  have := h.additive
  refine .bind fun ts => ?_
  split <;> infer_instance

theorem strict_signed {deeper : StageGrammar} (h : deeper.Strict) :
    Parser.Strict (signed deeper) := by
  have := h.unary
  have := strict_primary h
  unfold signed
  infer_instance

/-- However many levels are left, whatever is wrong with an expression is an error. -/
theorem strict_level (n : Nat) : (level n).Strict := by
  induction n with
  | zero => exact strict_ofUnary inferInstance inferInstance
  | succ n ih => exact strict_ofUnary (strict_signed ih) ih.negation

end Grammar

namespace Parser

-- A command is a chain of many parsers, and each takes a few steps of the search for instances.
set_option synthInstance.maxSize 1000

instance (clause : Clause) : StopsAtErrors (need clause) := by
  unfold need
  infer_instance

section Stages

variable {grammar : StageGrammar} (h : grammar.Strict)

instance : StopsAtErrors dataSource := by
  refine .bind fun l => ?_
  split
  · infer_instance
  · split <;> infer_instance

instance : StopsAtErrors sourceClause := by
  unfold sourceClause
  infer_instance

include h in
theorem stopsAtErrors_searchBody : StopsAtErrors (searchBody grammar) := by
  have := h.expression
  unfold searchBody
  infer_instance

instance : StopsAtErrors describe := by
  unfold describe
  infer_instance

instance : StopsAtErrors showDatasources := by
  unfold showDatasources
  infer_instance

include h in
theorem stopsAtErrors_filter : StopsAtErrors (filter grammar) := by
  have := h.expression
  unfold filter
  infer_instance

instance : StopsAtErrors fields := by
  unfold fields
  infer_instance

instance : StopsAtErrors renamePair := by
  unfold renamePair
  infer_instance

instance : StopsAtErrors rename := by
  unfold rename
  infer_instance

include h in
theorem stopsAtErrors_eval : StopsAtErrors (eval grammar) := by
  have := h.expression
  have : StopsAtErrors (assignment grammar) := by
    unfold assignment
    infer_instance
  unfold eval
  infer_instance

instance : StopsAtErrors sortKey := by
  unfold sortKey
  dsimp only
  infer_instance

instance : StopsAtErrors sort := by
  unfold sort
  infer_instance

instance : StopsAtErrors head := by
  unfold head
  infer_instance

/-! Aggregations and rankings. -/

include h in
theorem stopsAtErrors_aggregation : StopsAtErrors (aggregation grammar) := by
  have := h.expression
  have := h.additive
  refine .bind fun ts => ?_
  split
  · split
    · infer_instance
    · split <;> infer_instance
  · infer_instance

instance : StopsAtErrors bucketUnit? := by
  refine .bind fun ts => ?_
  split <;> infer_instance

instance : StopsAtErrors bucket := by
  unfold bucket
  infer_instance

instance : StopsAtErrors grouping := by
  unfold grouping
  infer_instance

instance (s : Stats) : StopsAtErrors (statsOption? s) := by
  unfold statsOption?
  infer_instance

include h in
theorem stopsAtErrors_stats : StopsAtErrors (stats grammar) := by
  have := stopsAtErrors_aggregation h
  refine .bind fun _ => .bind fun s => .bind fun _ => .bind fun aggregations => .bind fun by_ => ?_
  obtain ⟨span, groupBy⟩ := by_
  infer_instance

instance (command : String) : StopsAtErrors (skipUnknownOption command) := by
  refine .bind fun name => ?_
  cases name <;> infer_instance

instance (d : Dedup) : StopsAtErrors (dedupOption? d) := by
  refine .bind fun assigned => ?_
  split
  · exact .of_option (fun _ => inferInstance) <|
      .of_option (fun _ => inferInstance) <|
        .of_option (fun _ => inferInstance) <|
          .of_option (fun _ => inferInstance) inferInstance
  · infer_instance

instance : StopsAtErrors dedup := by
  unfold dedup
  infer_instance

instance : StopsAtErrors rank := by
  unfold rank
  infer_instance

/-! Extractions and learning. -/

instance : StopsAtErrors pattern := by
  refine .bind fun s => ?_
  cases s <;> infer_instance

instance : StopsAtErrors parse := by
  refine .bind fun _ => .bind fun source => .bind fun place => .bind fun pattern => ?_
  split <;> infer_instance

instance : StopsAtErrors grok := by
  unfold grok
  infer_instance

instance (o : PatternsOptions) : StopsAtErrors (patternsOption? o) := by
  refine .bind fun assigned => ?_
  split
  · refine .of_option (fun _ => inferInstance) (.of_option (fun _ => ?_) inferInstance)
    refine .bind fun place => .bind fun pattern => ?_
    cases Pattern.groupNames? pattern <;> infer_instance
  · infer_instance

instance : StopsAtErrors patterns := by
  unfold patterns
  infer_instance

instance (algorithm : Algorithm) (params : List Parameter) :
    StopsAtErrors (parameter? algorithm params) := by
  refine .bind fun atEnd => ?_
  split
  · infer_instance
  refine .bind fun assigned => ?_
  dsimp only
  split
  · refine .bind fun place => .bind fun name => ?_
    split
    · infer_instance
    · refine .bind fun _ => .bind fun valuePlace => .bind fun value => ?_
      split
      · infer_instance
      · split <;> infer_instance
  · infer_instance

instance (algorithm : Algorithm) : StopsAtErrors (learn algorithm) := by
  unfold learn
  infer_instance

include h in
/-- A command stops at no mere warning, whatever it is read of. -/
theorem stopsAtErrors_command (first : Bool) : StopsAtErrors (command grammar first) := by
  have := stopsAtErrors_searchBody h
  have := stopsAtErrors_filter h
  have := stopsAtErrors_eval h
  have := stopsAtErrors_stats h
  refine .bind fun ts => ?_
  split <;> infer_instance

end Stages

end Parser

end PipedQuery
