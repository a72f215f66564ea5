import PipedQuery.Proofs.Grammar.Knot
import PipedQuery.Proofs.Parser.Seam

/-!
# Expressions in front of a seam

An expression reads the same whatever seam stands behind it (`Grammar.transfers_level`), except that
one that is more than a sum goes on behind `in`.  All that the grammar looks at are the next two
lexemes, so for each of its looks it is to be seen that a seam behind at most one lexeme tells it
nothing.
-/

namespace PipedQuery

/-! What the grammar looks at. -/

section Looks

variable {us : List Lexeme} [IsSeam us] (l : Lexeme) (ts : List Lexeme)

/-- Whether a number with a sign starts is decided in front of the seam. -/
theorem startsNegative_seam :
    Parser.startsNegative (l :: (ts ++ us)) = Parser.startsNegative (l :: ts) := by
  cases ts with
  | cons m ts => rfl
  | nil =>
    obtain rfl | ⟨m, more, rfl, kind | kind | kind | ⟨kind, -⟩ | ⟨kind, -⟩⟩ := IsSeam.cases_ us
    · rfl
    all_goals simp [Parser.startsNegative, kind, TokenKind.isNumber]

theorem startsExtractUnit_seam :
    Parser.startsExtractUnit (l :: (ts ++ us)) = Parser.startsExtractUnit (l :: ts) := by
  cases ts with
  | cons m ts => rfl
  | nil =>
    obtain rfl | ⟨m, more, rfl, kind | kind | kind | ⟨kind, -⟩ | ⟨kind, -⟩⟩ := IsSeam.cases_ us
    · rfl
    all_goals simp [Parser.startsExtractUnit, kind]

theorem startsAssignment_seam :
    startsAssignment (l :: (ts ++ us)) = startsAssignment (l :: ts) := by
  cases ts with
  | cons m ts => rfl
  | nil =>
    obtain rfl | ⟨m, more, rfl, kind | kind | kind | ⟨kind, -⟩ | ⟨kind, -⟩⟩ := IsSeam.cases_ us
    · rfl
    all_goals simp [startsAssignment, kind]

/-- The form of an operand is decided in front of the seam. -/
theorem primaryForm_seam : primaryForm (l :: (ts ++ us)) = primaryForm (l :: ts) := by
  cases ts with
  | cons m ts => rfl
  | nil =>
    obtain rfl | ⟨m, more, rfl, kind | kind | kind | ⟨kind, -⟩ | ⟨kind, -⟩⟩ := IsSeam.cases_ us
    · rfl
    all_goals
      simp [primaryForm, keywordForm, kind, TokenKind.isString, startsIntervalValue]

variable {ts}

theorem startsImpliedOperand_seam :
    startsImpliedOperand (ts ++ us) = startsImpliedOperand ts := by
  obtain rfl | ⟨m, more, rfl, kind | kind | kind | ⟨kind, next⟩ | ⟨kind, next⟩⟩ :=
    IsSeam.cases_ us
  · rw [List.append_nil]
  all_goals
    match ts with
    | [] => simp [startsImpliedOperand, *]
    | [l] =>
      simp only [startsImpliedOperand, List.cons_append, List.nil_append, firstKind_cons, kind]
      rfl
    | l :: m :: ts => rfl

/-- So is the comparison that stands there. -/
theorem comparison?_seam : comparison? (ts ++ us) = comparison? ts := by
  obtain rfl | ⟨m, more, rfl, kind | kind | kind | ⟨kind, -⟩ | ⟨kind, -⟩⟩ := IsSeam.cases_ us
  · rw [List.append_nil]
  all_goals
    match ts with
    | [] | [l] => simp [comparison?, kind]
    | l :: m :: ts => rfl

theorem startsComparison_seam : startsComparison (l :: (ts ++ us)) = startsComparison (l :: ts) := by
  rw [startsComparison, startsComparison, ← List.cons_append, comparison?_seam]
  rfl

variable (us) in
/-- No operator of a sum or of a product starts a seam. -/
theorem operator?_seam {op? : TokenKind → Option BinaryOp} (comma : op? (.mark .comma) = none)
    (paren : op? (.mark .rParen) = none) (word : ∀ k, op? (.keyword k) = none) :
    (firstKind us).bind op? = none := by
  obtain rfl | ⟨m, more, rfl, kind | kind | kind | ⟨kind, -⟩ | ⟨kind, -⟩⟩ := IsSeam.cases_ us
  · rfl
  all_goals simp [kind, comma, paren, word]

end Looks

namespace Parser

/-! The ends of the forms that do not end with one of their parts. -/

/-- The end of an interval, behind its value. -/
def intervalUnit (value : Expr) : StageParser Expr := do
  match firstKind (← lexemes) with
  | some (.keyword unit) =>
    if unit.isIntervalUnit then
      skip 1
      return .interval value unit
    fail (.expected .intervalUnit)
  | _ => fail (.expected .intervalUnit)

theorem consumes_intervalUnit (value : Expr) : Consumes (intervalUnit value) := by
  refine .of_look lexemes_run (consumesIf_fail _) fun l ts => ?_
  dsimp only [firstKind_cons]
  split
  · split
    · exact .inr (.of_skip fun _ => inferInstance)
    · exact .inl (consumesIf_fail _)
  · exact .inl (consumesIf_fail _)

/-- The end of a choice, behind its branches. -/
def caseEnd (expression : StageParser Expr) (branches : List (Expr × Expr)) : StageParser Expr := do
  let fallback ←
    if startsElse (← lexemes) then do
      skip 1
      pure (some (← expression))
    else pure none
  expectMark .rParen
  return .case branches fallback

theorem consumes_caseEnd (expression : StageParser Expr) [Advances expression]
    (branches : List (Expr × Expr)) : Consumes (caseEnd expression branches) := by
  have closes (fallback : Option Expr) :
      Consumes (do expectMark .rParen; return .case branches fallback : StageParser Expr) :=
    (consumes_expect _).bind fun _ => inferInstance
  refine .after fun ts => ?_
  dsimp only
  split
  · exact .after fun _ => .after fun e => .after fun _ => closes _
  · exact .after fun _ => closes _

variable {inside : Bool} {us us' : List Lexeme}

/-! Names and constants. -/

theorem transfersAt_number (l : Lexeme) (ts : List Lexeme) :
    TransfersAt inside us us' (number l) (number l) (l :: ts) := by
  refine transfersAt_remaining fun place place' => transfersAt_skip ?_
  split <;> infer_instance

variable [IsSeam us] [IsSeam us']

/-- Only a dot at the end could make a name of the seam. -/
instance : Transfers inside us us' dottedPart? dottedPart? where
  advances := strides_dottedPart?.advances
  at_ ts plain := by
    have other (us : List Lexeme) [IsSeam us] : firstKind us ≠ some (.mark .dot) :=
      firstKind_seam_ne us _
    match ts with
    | [] =>
      exact transfersAt_of_run [] (dottedPart?_of_ne (other us)) (dottedPart?_of_ne (other us')) rfl
        plain
    | [l] =>
      have dotless : firstKind [l] ≠ some (.mark .dot) := fun dot =>
        plain ⟨l, rfl, Option.some.inj dot⟩
      exact transfersAt_of_run [l] (dottedPart?_of_ne dotless) (dottedPart?_of_ne dotless) rfl plain
    | dot :: l :: ts =>
      by_cases here : dot.kind = .mark .dot
      · have run (us : List Lexeme) : dottedPart? (dot :: l :: (ts ++ us)) =
            match namePart? true l with
            | some part => ⟨.ok (some part), ts ++ us, []⟩
            | none => ⟨.ok none, dot :: l :: (ts ++ us), []⟩ := by
          cases named : namePart? true l <;> simp [dottedPart?, nextPart?, here, named]
        cases named : namePart? true l with
        | none =>
          rw [named] at run
          exact transfersAt_of_run (dot :: l :: ts) (run us) (run us') rfl plain
        | some part =>
          rw [named] at run
          exact transfersAt_of_run ts (run us) (run us') rfl plain
      · have dotless (us : List Lexeme) : firstKind (dot :: l :: (ts ++ us)) ≠ some (.mark .dot) := by
          simpa using here
        exact transfersAt_of_run (dot :: l :: ts) (dottedPart?_of_ne (dotless us))
          (dottedPart?_of_ne (dotless us')) rfl plain

instance (source : Bool) : Transfers inside us us' (qualifiedName source) (qualifiedName source) := by
  have steps (name : String) : Transfers inside us us' (nameStep name) (nameStep name) := by
    refine .bind fun part => ?_
    cases part <;> infer_instance
  refine .of_consumes (consumes_qualifiedName source) fun l ts => transfersAt_peek ?_
  dsimp only [Option.bind_some]
  cases namePart? source l with
  | none => exact transfersAt_of_error nofun
  | some first =>
    exact transfersAt_skip
      (inferInstanceAs (Transfers inside us us' (iterate nameStep first) (iterate nameStep first)))

instance : Transfers inside us us' fieldName fieldName :=
  inferInstanceAs (Transfers inside us us' (qualifiedName false) (qualifiedName false))

instance (what : Expected) : Transfers true us us' (plainNumber what) (plainNumber what) := by
  refine .of_cases nofun fun l ts => transfersAt_peek ?_
  dsimp only
  split
  · exact transfersAt_number l ts
  · exact transfersAt_of_error nofun

instance : Transfers true us us' unsignedLiteral unsignedLiteral := by
  refine .of_cases nofun fun l ts => transfersAt_peek ?_
  have passed (v : Literal) :
      TransfersAt true us us' (skip 1 >>= fun _ => pure v) (skip 1 >>= fun _ => pure v) (l :: ts) :=
    transfersAt_skip inferInstance
  dsimp only
  split
  case h_1 | h_2 =>
    split
    · exact passed _
    · exact transfersAt_of_error nofun
  case h_7 => exact transfersAt_of_error nofun
  all_goals exact passed _

instance : Transfers true us us' literal literal := by
  refine .of_cases nofun fun l ts => transfersAt_lexemes ?_
  rw [startsNegative_seam, startsNegative_seam]
  split
  · exact transfersAt_skip inferInstance
  · exact Transfers.at_ _

instance : Transfers true us us' string? string? := by
  refine .of_cases nofun fun l ts => transfersAt_peek ?_
  dsimp only
  split
  · exact transfersAt_skip inferInstance
  · exact Transfers.at_ _

/-! Calls and special forms. -/

instance : Transfers true us us' optionValue optionValue := by
  refine .of_cases nofun fun l ts => transfersAt_lexemes ?_
  dsimp only [firstKind_cons]
  split
  · exact Transfers.at_ _
  · split <;> exact Transfers.at_ _
  · exact Transfers.at_ _

instance (function : Keyword) :
    Transfers true us us' (namedOption function) (namedOption function) := by
  refine .of_cases nofun fun name ts => transfersAt_remaining fun place place' => ?_
  refine transfersAt_peek (transfersAt_skip ?_)
  refine .bind fun _ => .bind fun value => ?_
  split <;> infer_instance

instance : Transfers true us us' weight weight := by
  refine .bind fun v => ?_
  cases v <;> infer_instance

instance : Transfers true us us' weightedField weightedField := by
  refine .bind fun text => ?_
  cases text <;> infer_instance

instance : Transfers true us us' weightedFields weightedFields := by
  unfold weightedFields
  infer_instance

section Forms

variable {expression expression' additive additive' : StageParser Expr}
  [within : Transfers true us us' expression expression']
  [Transfers true us us' additive additive']

instance (function : Keyword) (required : Nat) (a : RelevanceArguments) :
    Transfers true us us' (relevanceArgument expression function required a)
      (relevanceArgument expression' function required a) := by
  have := within.advances
  refine .of_cases nofun fun l ts => transfersAt_lexemes ?_
  rw [startsAssignment_seam, startsAssignment_seam]
  exact Transfers.at_ _

instance (function : Keyword) : Transfers true us us' (relevanceArguments expression function)
    (relevanceArguments expression' function) := by
  unfold relevanceArguments
  infer_instance

instance : Transfers true us us' (arguments expression) (arguments expression') := by
  unfold arguments
  infer_instance

instance : Transfers true us us' (positionArguments expression additive)
    (positionArguments expression' additive') := by
  unfold positionArguments
  infer_instance

instance : Transfers true us us' (extractArguments expression) (extractArguments expression') := by
  have := within.advances
  refine .of_cases nofun fun l ts => transfersAt_lexemes ?_
  dsimp only
  rw [startsExtractUnit_seam, startsExtractUnit_seam]
  split
  · exact transfersAt_skip inferInstance
  · exact Transfers.at_ _

instance : Transfers true us us' (rankedArguments expression) (rankedArguments expression') := by
  unfold rankedArguments
  infer_instance

instance (function : Keyword) (family : FunctionFamily) :
    Transfers true us us' (callArguments expression additive function family)
      (callArguments expression' additive' function family) := by
  unfold callArguments
  by_cases ranked : function = .percentile
  · simp only [if_pos ranked]
    infer_instance
  · simp only [if_neg ranked]
    infer_instance

theorem transfersAt_call (function : Keyword) (family : FunctionFamily) (l : Lexeme)
    (ts : List Lexeme) :
    TransfersAt inside us us' (call expression additive function family)
      (call expression' additive' function family) (l :: ts) := by
  refine transfersAt_remaining fun place place' => transfersAt_skip ?_
  refine .bracket (fun r => ?_) fun r => ?_
  · obtain ⟨args, options⟩ := r
    refine (consumes_expect _).bind fun _ => ?_
    split <;> infer_instance
  · obtain ⟨args, options⟩ := r
    refine .bind fun _ => ?_
    split <;> infer_instance

omit [IsSeam us] [IsSeam us'] in
theorem transfersAt_interval (l : Lexeme) (ts : List Lexeme) :
    TransfersAt inside us us' (interval additive) (interval additive') (l :: ts) := by
  refine transfersAt_skip (.bracket consumes_intervalUnit fun value => ?_)
  refine .of_consumes (consumes_intervalUnit value) fun l ts => transfersAt_lexemes ?_
  dsimp only [firstKind_cons]
  split
  · split
    · exact transfersAt_skip inferInstance
    · exact transfersAt_of_error nofun
  · exact transfersAt_of_error nofun

instance : Transfers true us us' (branch expression) (branch expression') := by
  unfold branch
  infer_instance

omit [IsSeam us] [IsSeam us'] in
theorem transfersAt_case (l : Lexeme) (ts : List Lexeme) :
    TransfersAt inside us us' (case expression) (case expression') (l :: ts) := by
  have := within.advances
  have consumes := consumes_caseEnd expression
  refine transfersAt_skip (.bind fun _ => .bracket consumes fun branches => ?_)
  refine .of_consumes (consumes branches) fun l ts => transfersAt_lexemes ?_
  change TransfersAt inside us us' (if startsElse (l :: ts) = true then _ else _)
    (if startsElse (l :: ts) = true then _ else _) (l :: ts)
  split
  · refine transfersAt_skip (.bracket (fun e => .after fun _ => ?_) inferInstance)
    exact (consumes_expect _).bind fun _ => inferInstance
  · exact Transfers.at_ _

instance : Transfers true us us' typeName typeName := by
  refine .of_cases nofun fun l ts => transfersAt_lexemes ?_
  dsimp only [firstKind_cons, Option.bind_some]
  split
  · exact transfersAt_skip inferInstance
  · exact transfersAt_of_error nofun

omit [IsSeam us] [IsSeam us'] in
theorem transfersAt_cast (l : Lexeme) (ts : List Lexeme) :
    TransfersAt inside us us' (cast expression) (cast expression') (l :: ts) := by
  refine transfersAt_skip (.bind fun _ => .bracket (fun value => ?_) fun value => ?_)
  · exact (consumes_expect _).bind fun _ => inferInstance
  · refine .bind fun _ => .bracket (fun type => ?_) fun type => inferInstance
    exact (consumes_expect _).bind fun _ => inferInstance

end Forms

/-! Levels of expressions. -/

section Levels

variable {operand operand' additive additive' deeper deeper' : StageParser Expr}
  {expression expression' : StageParser Expr}
  {op? op?' : StageParser (Option BinaryOp)}
  [Transfers inside us us' operand operand'] [Transfers inside us us' deeper deeper']

theorem transfers_operator? {op? : TokenKind → Option BinaryOp} (comma : op? (.mark .comma) = none)
    (paren : op? (.mark .rParen) = none) (word : ∀ k, op? (.keyword k) = none) :
    Transfers inside us us' (operator? op?) (operator? op?) := by
  refine .of_cases (fun _ => ?_) fun l ts => transfersAt_lexemes ?_
  · exact transfersAt_of_run [] (operator?_of_none (operator?_seam us comma paren word))
      (operator?_of_none (operator?_seam us' comma paren word)) rfl
  · dsimp only [firstKind_cons, Option.bind_some]
    cases op? l.kind with
    | none => exact Transfers.at_ _
    | some op => exact transfersAt_skip inferInstance

instance (k : Keyword) [Passes inside us (.keyword k)] [Passes inside us' (.keyword k)]
    (op : BinaryOp) : Transfers inside us us' (keywordOperator? k op) (keywordOperator? k op) := by
  unfold keywordOperator?
  infer_instance

instance : Transfers inside us us' andOperator? andOperator? := by
  refine .bind fun found => ?_
  split
  · infer_instance
  · refine .of_lexemes inferInstance fun ts => ?_
    rw [startsImpliedOperand_seam, startsImpliedOperand_seam]
    exact Transfers.at_ ts

omit [IsSeam us] [IsSeam us'] in
/-- A chain of operators reads the same in front of either continuation if its operands do. -/
theorem transfers_chain [Transfers inside us us' op? op?'] :
    Transfers inside us us' (chain operand op?) (chain operand' op?') := by
  have steps (left : Expr) :
      Transfers inside us us' (chainStep operand op? left) (chainStep operand' op?' left) := by
    refine .bind fun op => ?_
    cases op <;> infer_instance
  have loop (first : Expr) : Transfers inside us us' (iterate (chainStep operand op?) first)
      (iterate (chainStep operand' op?') first) :=
    inferInstance
  exact .bind loop

omit [Transfers inside us us' operand operand'] in
theorem Transfers.logical (_ : Transfers inside us us' operand operand') :
    Transfers inside us us' (logical operand) (logical operand') :=
  have : Transfers inside us us' (chain operand andOperator?) (chain operand' andOperator?) :=
    transfers_chain
  have : Transfers inside us us' (chain (chain operand andOperator?) (keywordOperator? .or_ .or))
      (chain (chain operand' andOperator?) (keywordOperator? .or_ .or)) := transfers_chain
  transfers_chain

instance : Transfers inside us us' (negation deeper operand) (negation deeper' operand') := by
  unfold negation
  infer_instance

section Comparison

variable [Transfers inside us us' additive additive'] [Transfers true us us' expression expression']
  [here : Passes inside us (.keyword .in_)] [there : Passes inside us' (.keyword .in_)]

instance : Transfers inside us us' (valueList expression) (valueList expression') := by
  refine .bind fun _ => .bracket (fun items => ?_) fun items => inferInstance
  exact (consumes_expect _).bind fun _ => inferInstance

instance (left : Expr) : Transfers inside us us' (comparisonTail? additive expression left)
    (comparisonTail? additive' expression' left) := by
  refine .bind fun found => ?_
  split
  · infer_instance
  · have forward := (inferInstance : Transfers inside us us' additive additive').advances
    refine .of_lexemes (fun ts => ?_) fun ts => ?_
    · cases comparison? ts <;> infer_instance
    rw [comparison?_seam, comparison?_seam]
    cases found : comparison? ts with
    | none => exact Transfers.at_ _
    | some op =>
      cases ts with
      | nil => cases found
      | cons l ts => exact transfersAt_skip inferInstance

instance : Transfers inside us us' (comparison additive expression)
    (comparison additive' expression') := by
  refine .bind fun left => .bind fun tail => ?_
  cases tail with
  | none => infer_instance
  | some e =>
    refine .of_cases (fun outside => ?_) fun l ts => transfersAt_lexemes ?_
    · have ends (us : List Lexeme) [IsSeam us] (other : firstKind us ≠ some (.keyword .in_)) :
          startsComparison us = false := by
        have noOperator : comparison? us = none :=
          (comparison?_seam : comparison? ([] ++ us) = comparison? [])
        simp [startsComparison, noOperator, other]
      change TransfersAt inside us us' (if startsComparison us = true then _ else _)
        (if startsComparison us' = true then _ else _) []
      rw [ends us (here.other outside), ends us' (there.other outside)]
      exact Transfers.at_ []
    · rw [startsComparison_seam, startsComparison_seam]
      exact Transfers.at_ _

end Comparison

end Levels

end Parser

namespace Grammar

open PipedQuery.Parser

/-- Whether every parser of the grammar reads in front of `us'` what it reads in front of `us`.  What
    is more than a sum goes on behind `in`. -/
structure Transfers (us us' : List Lexeme) (g : StageGrammar) : Prop where
  expression (inside : Bool) [Passes inside us (.keyword .in_)] [Passes inside us' (.keyword .in_)] :
    Parser.Transfers inside us us' g.expression g.expression
  negation (inside : Bool) [Passes inside us (.keyword .in_)] [Passes inside us' (.keyword .in_)] :
    Parser.Transfers inside us us' g.negation g.negation
  additive (inside : Bool) : Parser.Transfers inside us us' g.additive g.additive
  unary (inside : Bool) : Parser.Transfers inside us us' g.unary g.unary

variable {us us' : List Lexeme} [IsSeam us] [IsSeam us']

theorem transfers_ofUnary {unary deeperNegation : StageParser Expr} (consumes : Parser.Consumes unary)
    (consumes' : Parser.Consumes deeperNegation)
    (hunary : ∀ inside, Parser.Transfers inside us us' unary unary)
    (hdeeper : ∀ (inside : Bool) [Passes inside us (.keyword .in_)]
      [Passes inside us' (.keyword .in_)],
      Parser.Transfers inside us us' deeperNegation deeperNegation) :
    (ofUnary unary deeperNegation).Transfers us us' := by
  have grammar := consumes_ofUnary consumes consumes'
  have additive (inside : Bool) : Parser.Transfers inside us us'
      (ofUnary unary deeperNegation).additive (ofUnary unary deeperNegation).additive :=
    have := hunary inside
    have : Parser.Transfers inside us us' (operator? multiplicativeOp?)
        (operator? multiplicativeOp?) := transfers_operator? rfl rfl fun _ => rfl
    have : Parser.Transfers inside us us' (operator? additiveOp?) (operator? additiveOp?) :=
      transfers_operator? rfl rfl fun _ => rfl
    have : Parser.Transfers inside us us' (chain unary (operator? multiplicativeOp?))
        (chain unary (operator? multiplicativeOp?)) := transfers_chain
    transfers_chain
  have condition (inside : Bool) [Passes inside us (.keyword .in_)]
      [Passes inside us' (.keyword .in_)] (p q : StageParser Expr)
      (_ : Parser.Transfers true us us' p q) : Parser.Transfers inside us us'
        (Parser.negation deeperNegation (comparison (ofUnary unary deeperNegation).additive p))
        (Parser.negation deeperNegation (comparison (ofUnary unary deeperNegation).additive q)) :=
    have := hdeeper inside
    have := additive inside
    inferInstance
  -- The list of a membership test, which is read by the parser that is being defined, is closed
  -- before the seam.
  have inner : Parser.Transfers true us us' (ofUnary unary deeperNegation).expression
      (ofUnary unary deeperNegation).expression :=
    have : Advances (Parser.fix _) := grammar.expression.advances
    transfers_fix fun p q transfers => (condition true p q transfers).logical
  refine ⟨fun inside _ _ => ?_, fun inside _ _ => condition inside _ _ inner, additive, hunary⟩
  rw [expression_ofUnary consumes consumes']
  exact (condition inside _ _ inner).logical

/-- The innermost operands read the same in front of either continuation. -/
theorem transfers_primary {deeper : StageGrammar} (consumes : deeper.Consumes)
    (h : deeper.Transfers us us') (inside : Bool) :
    Parser.Transfers inside us us' (primary deeper) (primary deeper) := by
  have := h.expression true
  have := h.additive true
  refine .of_consumes (consumes_primary consumes) fun l ts => transfersAt_lexemes ?_
  rw [primaryForm_seam, primaryForm_seam]
  cases form : primaryForm (l :: ts) with
  | number => exact (transfersAt_number l ts).bind fun v => inferInstance
  | string => exact transfersAt_skip inferInstance
  | group =>
    exact transfersAt_skip (.bracket (fun e => (consumes_expect _).bind fun _ => inferInstance)
      fun e => inferInstance)
  | boolean value => exact transfersAt_skip inferInstance
  | date k =>
    cases ts with
    | nil => cases isString_of_primaryForm form
    | cons m ts => exact transfersAt_of_run ts rfl rfl rfl
  | interval => exact transfersAt_interval l ts
  | case => exact transfersAt_case l ts
  | cast => exact transfersAt_cast l ts
  | call function family => exact transfersAt_call function family l ts
  | unknownCall | none => exact transfersAt_of_error nofun
  | field => exact Parser.Transfers.at_ _

/-- So do operands with signs. -/
theorem transfers_signed {deeper : StageGrammar} (consumes : deeper.Consumes)
    (h : deeper.Transfers us us') (inside : Bool) :
    Parser.Transfers inside us us' (signed deeper) (signed deeper) := by
  have := h.unary inside
  have := transfers_primary consumes h inside
  unfold signed
  infer_instance

/-- However many levels are left, an expression is read alike in front of every seam. -/
theorem transfers_level (n : Nat) : (level n).Transfers us us' := by
  induction n with
  | zero =>
    exact transfers_ofUnary (consumesIf_fail _) (consumesIf_fail _) (fun _ => inferInstance)
      fun _ => inferInstance
  | succ n ih =>
    have consumes := consumes_level n
    exact transfers_ofUnary (consumes_signed consumes) consumes.negation
      (transfers_signed consumes ih) ih.negation

end Grammar

end PipedQuery
