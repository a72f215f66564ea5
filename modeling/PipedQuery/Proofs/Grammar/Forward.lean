import PipedQuery.Proofs.Grammar.Chain
import PipedQuery.Proofs.Grammar.Names
import PipedQuery.Proofs.Parser.Forward

/-!
# The expression grammar only goes forward

Every parser of the grammar leaves an end of what it was given, and an expression takes up at least
one lexeme, whatever the number of levels that are left (`Grammar.consumes_level`).
-/

namespace PipedQuery

namespace Parser

/-! Names and constants. -/

/-- A part of a name takes up its dot too. -/
theorem strides_dottedPart? : Strides dottedPart? := by
  refine .of_look lexemes_run strides_none fun l ts => ?_
  split
  · exact .inr (.of_skip fun _ => inferInstance)
  · exact .inl strides_none

theorem strides_nameStep (name : String) : Strides (nameStep name) := by
  refine .bind strides_dottedPart? (fun part _ => ?_) fun part no => ?_
  · cases part <;> infer_instance
  · cases part with
    | none => exact strides_none
    | some part => exact absurd rfl no

instance (name : String) : Advances (nameStep name) := (strides_nameStep name).advances

/-- A name takes up a lexeme at least. -/
theorem consumes_qualifiedName (source : Bool) : Consumes (qualifiedName source) := by
  refine .of_look peek_run (consumesIf_fail _) fun l ts => ?_
  dsimp only [List.head?_cons, Option.bind_some]
  cases namePart? source l with
  | none => exact .inl (consumesIf_fail _)
  | some first => exact .inr (.of_skip fun _ => inferInstanceAs (Advances (iterate nameStep first)))

instance (source : Bool) : Advances (qualifiedName source) := (consumes_qualifiedName source).advances

theorem consumes_fieldName : Consumes fieldName := consumes_qualifiedName false

instance : Advances fieldName := consumes_fieldName.advances

instance : Advances alias? := by
  unfold alias?
  infer_instance

theorem enters_number (l : Lexeme) : Enters (number l) := by
  refine .of_look remaining_run fun place => .of_skip fun _ => ?_
  split <;> infer_instance

instance (l : Lexeme) : Advances (number l) := (enters_number l).advances

instance (what : Expected) : Advances (plainNumber what) := by
  refine .bind fun l => ?_
  split <;> infer_instance

instance : Advances unsignedLiteral := by
  refine .bind fun l => ?_
  split
  · infer_instance
  · split
    case h_1 | h_2 => split <;> infer_instance
    all_goals infer_instance

instance : Advances literal := by
  unfold literal
  infer_instance

instance : Advances integer := by
  refine .bind fun place => .bind fun l => ?_
  split <;> infer_instance

instance : Advances integer? := by
  unfold integer?
  infer_instance

instance : Advances boolean := by
  unfold boolean
  infer_instance

instance : Advances string? := by
  refine .bind fun l => ?_
  split <;> infer_instance

instance : Advances string := by
  refine .bind fun s => ?_
  cases s <;> infer_instance

/-! Calls and special forms. -/

instance : Advances optionValue := by
  refine .bind fun ts => ?_
  split <;> infer_instance

instance (function : Keyword) : Advances (namedOption function) := by
  refine .bind fun place => .bind fun name => ?_
  split
  · infer_instance
  · refine .bind fun _ => .bind fun _ => .bind fun value => ?_
    split <;> infer_instance

instance : Advances weight := by
  refine .bind fun v => ?_
  cases v <;> infer_instance

instance : Advances weightedField := by
  refine .bind fun text => ?_
  cases text <;> infer_instance

instance : Advances weightedFields := by
  unfold weightedFields
  infer_instance

section Forms

variable (expression additive : StageParser Expr) [Advances expression] [Advances additive]

instance (function : Keyword) (required : Nat) (a : RelevanceArguments) :
    Advances (relevanceArgument expression function required a) := by
  unfold relevanceArgument
  infer_instance

instance (function : Keyword) : Advances (relevanceArguments expression function) := by
  unfold relevanceArguments
  infer_instance

instance : Advances (arguments expression) := by
  unfold arguments
  infer_instance

instance : Advances (positionArguments expression additive) := by
  unfold positionArguments
  infer_instance

instance : Advances (extractArguments expression) := by
  refine .bind fun ts => ?_
  cases ts <;> infer_instance

instance : Advances (rankedArguments expression) := by
  unfold rankedArguments
  infer_instance

instance (function : Keyword) (family : FunctionFamily) :
    Advances (callArguments expression additive function family) := by
  unfold callArguments
  infer_instance

theorem enters_call (function : Keyword) (family : FunctionFamily) :
    Enters (call expression additive function family) := by
  refine .of_look remaining_run fun place => .of_skip fun _ => .bind fun r => ?_
  obtain ⟨args, options⟩ := r
  refine .bind fun _ => ?_
  split <;> infer_instance

instance (function : Keyword) (family : FunctionFamily) :
    Advances (call expression additive function family) :=
  (enters_call expression additive function family).advances

theorem enters_interval : Enters (interval additive) := by
  refine .of_skip fun _ => .bind fun value => .bind fun ts => ?_
  split <;> infer_instance

instance : Advances (branch expression) := by
  unfold branch
  infer_instance

theorem enters_case : Enters (case expression) := by
  refine .of_skip fun _ => .bind fun _ => .bind fun branches => .bind fun ts => ?_
  dsimp only
  infer_instance

instance : Advances typeName := by
  refine .bind fun ts => ?_
  split <;> infer_instance

theorem enters_cast : Enters (cast expression) :=
  .of_skip fun _ => inferInstance

end Forms

/-! Levels of expressions. -/

section Levels

variable {operand additive deeper : StageParser Expr} (expression : StageParser Expr)
  [Advances expression]
  {op? : StageParser (Option BinaryOp)}

instance (op? : TokenKind → Option BinaryOp) : Advances (operator? op?) := by
  refine .bind fun ts => ?_
  split <;> infer_instance

instance (k : Keyword) (op : BinaryOp) : Advances (keywordOperator? k op) := by
  unfold keywordOperator?
  infer_instance

instance : Advances andOperator? := by
  unfold andOperator?
  infer_instance

instance [Advances operand] [Advances op?] (left : Expr) :
    Advances (chainStep operand op? left) := by
  refine .bind fun op => ?_
  cases op <;> infer_instance

theorem consumes_chain (h : Consumes operand) [Advances op?] : Consumes (chain operand op?) :=
  have := h.advances
  have loop (first : Expr) : Advances (iterate (chainStep operand op?) first) := inferInstance
  h.bind loop

theorem consumes_logical (h : Consumes operand) : Consumes (logical operand) :=
  consumes_chain (consumes_chain (consumes_chain h))

instance : Advances (valueList expression) := by
  unfold valueList
  infer_instance

instance [Advances additive] (left : Expr) :
    Advances (comparisonTail? additive expression left) := by
  refine .bind fun found => ?_
  split
  · infer_instance
  · refine .bind fun ts => ?_
    split <;> infer_instance

theorem consumes_comparison (h : Consumes additive) : Consumes (comparison additive expression) := by
  have := h.advances
  refine h.bind fun left => .bind fun tail => ?_
  cases tail <;> infer_instance

theorem consumes_negation (hdeeper : Consumes deeper) (h : Consumes operand) :
    Consumes (negation deeper operand) := by
  refine .after fun found => ?_
  split
  · exact hdeeper.bind fun e => inferInstance
  · exact h

end Levels

end Parser

namespace Grammar

open PipedQuery.Parser

/-- Whether every parser of the grammar reads a lexeme at least before it gives an expression. -/
structure Consumes (g : StageGrammar) : Prop where
  expression : Parser.Consumes g.expression
  negation : Parser.Consumes g.negation
  additive : Parser.Consumes g.additive
  unary : Parser.Consumes g.unary

theorem consumes_ofUnary {unary deeperNegation : StageParser Expr} (hunary : Parser.Consumes unary)
    (hdeeper : Parser.Consumes deeperNegation) : (ofUnary unary deeperNegation).Consumes := by
  have additive : Parser.Consumes (ofUnary unary deeperNegation).additive :=
    consumes_chain (consumes_chain hunary)
  have condition (p : StageParser Expr) (_ : Advances p) :
      Parser.Consumes (Parser.negation deeperNegation
        (comparison (ofUnary unary deeperNegation).additive p)) :=
    consumes_negation hdeeper (consumes_comparison p additive)
  -- The list of a membership test is read by the parser that is being defined.
  have expression : Parser.Consumes (ofUnary unary deeperNegation).expression :=
    consumes_fix fun p hp => consumes_logical (condition p hp)
  exact ⟨expression, condition _ expression.advances, additive, hunary⟩

theorem isString_of_keywordForm {k : Keyword} {next : Option TokenKind} {kind : DateKind}
    (form : keywordForm k next = .date kind) : next.any TokenKind.isString = true := by
  unfold keywordForm at form
  split at form
  · cases form
  split at form
  · cases form
  split at form
  · assumption
  · repeat' split at form
    all_goals cases form

/-- Behind the word that introduces a date stands a string. -/
theorem isString_of_primaryForm {ts : List Lexeme} {kind : DateKind}
    (form : primaryForm ts = .date kind) : (secondKind ts).any TokenKind.isString = true := by
  unfold primaryForm at form
  split at form
  case h_6 => exact isString_of_keywordForm form
  case h_7 => split at form <;> cases form
  all_goals cases form

theorem consumes_primary {deeper : StageGrammar} (h : deeper.Consumes) :
    Parser.Consumes (primary deeper) := by
  have := h.expression.advances
  have := h.additive.advances
  refine .of_look lexemes_run (consumesIf_fail _) fun l ts => ?_
  split
  · exact .inr ((enters_number _).bind fun v => inferInstance)
  · exact .inr (.of_skip fun _ => inferInstance)
  · exact .inr (.of_skip fun _ => inferInstance)
  · exact .inr (.of_skip fun _ => inferInstance)
  · exact .inr (.of_skip fun _ => inferInstance)
  · exact .inr (enters_interval _)
  · exact .inr (enters_case _)
  · exact .inr (enters_cast _)
  · exact .inr (enters_call _ _ _ _)
  · exact .inl (consumesIf_fail _)
  · exact .inl (consumes_fieldName.bind fun name => inferInstance)
  · exact .inl (consumesIf_fail _)

theorem consumes_signed {deeper : StageGrammar} (h : deeper.Consumes) :
    Parser.Consumes (signed deeper) := by
  have sign (op : UnaryOp) :
      Parser.Consumes (do return .unary op (← deeper.unary) : StageParser Expr) :=
    h.unary.bind fun e => inferInstance
  refine .after fun minus => ?_
  split
  · exact sign .negate
  refine .after fun plus => ?_
  split
  · exact sign .plus
  · exact consumes_primary h

/-- However many levels are left, an expression takes up a lexeme at least. -/
theorem consumes_level (n : Nat) : (level n).Consumes := by
  induction n with
  | zero => exact consumes_ofUnary (consumesIf_fail _) (consumesIf_fail _)
  | succ n ih => exact consumes_ofUnary (consumes_signed ih) ih.negation

end Grammar

end PipedQuery
