import PipedQuery.Grammar.Extract
import PipedQuery.Proofs.Grammar.KeptLevels
import PipedQuery.Proofs.Parser.LetterCase

/-!
# The grammar and letter case

Letters look alike to the grammar in either case: where it looks at the text of a lexeme, it asks for
a first sign, for the value of a number, or for a word in any letter case.  So every command is read
of lowered lexemes as it is of the lexemes themselves (`Parser.parallel_command`).
-/

namespace PipedQuery

/-! What the grammar looks at. -/

/-- `else` is found in any letter case. -/
theorem isElse_lower (l : Lexeme) : isElse l.lower.text = isElse l.text := by
  rw [isElse, isElse, Lexeme.map_toLower_lower]

/-- An `@` has no letter case. -/
theorem startsWithAt_lower (l : Lexeme) :
    l.lower.text.toList.head? = some '@' ↔ l.text.toList.head? = some '@' := by
  unfold Lexeme.lower
  split
  · rfl
  · rw [String.toList_map, List.head?_map, Option.map_eq_some_iff]
    simp only [toLower_eq_iff (d := '@') rfl, exists_eq_right]

/-- A part of a name is one in any letter case. -/
theorem agree_namePart? (anyKeyword : Bool) (l : Lexeme) :
    Shape.Agree (namePart? anyKeyword l) (namePart? anyKeyword l.lower) := by
  unfold namePart?
  rw [Lexeme.lower_kind]
  split
  case h_4 => split <;> exact Agrees.agree
  all_goals exact Agrees.agree

namespace Parser

@[simp] theorem startsNegative_map_lower (ts : List Lexeme) :
    startsNegative (ts.map .lower) = startsNegative ts := by
  simp [startsNegative]

/-! Names and constants. -/

theorem agree_nextPart? (ts : List Lexeme) :
    Shape.Agree (nextPart? ts) (nextPart? (ts.map .lower)) := by
  match ts with
  | [] | [l] => exact .none
  | dot :: l :: rest =>
    simp only [nextPart?, List.map_cons, Lexeme.lower_kind]
    split
    · exact agree_namePart? true l
    · exact .none

instance : Parallel dottedPart? dottedPart? := by
  refine .of_lexemes fun ts => ?_
  have same := agree_nextPart? ts
  generalize nextPart? ts = part, nextPart? (ts.map .lower) = part' at same ⊢
  cases same <;> infer_instance

instance (source : Bool) : Parallel (qualifiedName source) (qualifiedName source) := by
  refine .of_peek (inferInstanceAs (Parallel (fail _) (fail _))) fun l => ?_
  have same := agree_namePart? source l
  simp only [Option.bind_some]
  generalize namePart? source l = first, namePart? source l.lower = first' at same ⊢
  cases same with
  | none => infer_instance
  | some =>
    refine .bind fun _ => .iterate (fun name => .bind fun ⟨part, part', agree⟩ => ?_) ⟨trivial⟩
    cases agree <;> infer_instance

instance : Parallel fieldName fieldName :=
  inferInstanceAs (Parallel (qualifiedName false) (qualifiedName false))

instance : Parallel alias? alias? := by
  unfold alias?
  infer_instance

instance (l : Lexeme) : Parallel (number l) (number l) := by
  refine .bind fun place => .bind fun _ => ?_
  split <;> infer_instance

instance (what : Expected) : Parallel (plainNumber what) (plainNumber what) := by
  refine .of_peek inferInstance fun l => ?_
  simp only [Lexeme.lower_kind]
  split
  · next number =>
    rw [Lexeme.lower_of_isNumber number]
    infer_instance
  · infer_instance

instance : Parallel unsignedLiteral unsignedLiteral := by
  refine .of_peek inferInstance fun l => ?_
  simp only [Lexeme.lower_kind]
  split
  case h_1 kind | h_2 kind =>
    rw [Lexeme.lower_of_isNumber (by rw [kind]; rfl)]
    split <;> infer_instance
  all_goals infer_instance

instance : Parallel literal literal := by
  refine .of_lexemes fun ts => ?_
  simp only [startsNegative_map_lower]
  infer_instance

instance : Parallel integer integer := by
  refine .bind fun place => .of_peek inferInstance fun l => ?_
  simp only [Lexeme.lower_kind]
  split
  · next kind =>
    rw [Lexeme.lower_of_isNumber (by rw [kind]; rfl)]
    infer_instance
  · infer_instance

instance : Parallel integer? integer? := by
  unfold integer?
  infer_instance

instance : Parallel boolean boolean := by
  unfold boolean
  infer_instance

instance : Parallel string? string? := by
  refine .of_peek inferInstance fun l => ?_
  simp only [Lexeme.lower_kind]
  infer_instance

instance : Parallel string string := by
  refine .bind fun ⟨s, s', agree⟩ => ?_
  cases agree <;> infer_instance

/-! Calls and special forms. -/

instance : Parallel optionValue optionValue := by
  refine .of_lexemes fun ts => ?_
  simp only [firstKind_map_lower]
  split <;> infer_instance

instance (function : Keyword) : Parallel (namedOption function) (namedOption function) := by
  refine .bind fun place => .of_peek inferInstance fun name => ?_
  refine .bind fun _ => .bind fun _ => .bind fun value => ?_
  simp only [Lexeme.lower_kind]
  split <;> infer_instance

instance : Parallel weight weight := by
  refine .bind fun ⟨v, v', agree⟩ => ?_
  cases v <;> cases v' <;> first | infer_instance | cases agree

instance : Parallel weightedField weightedField := by
  refine .bind fun ⟨text, text', agree⟩ => ?_
  cases agree <;> infer_instance

instance : Parallel weightedFields weightedFields := by
  unfold weightedFields
  infer_instance

section Forms

variable (expression additive : StageParser Expr) [Parallel expression expression]
  [Parallel additive additive]

/-- The arguments of a search for relevance are read alike in any letter case. -/
theorem parallel_relevanceArgument (function : Keyword) (required : Nat)
    (t : Twins RelevanceArguments) :
    Parallel (relevanceArgument expression function required t.fst)
      (relevanceArgument expression function required t.snd) := by
  obtain ⟨⟨args, options, sawOption⟩, ⟨args', options', sawOption'⟩, length, saw⟩ := t
  dsimp only at length saw
  subst saw
  have empty : args.isEmpty = args'.isEmpty := by
    rw [Bool.eq_iff_iff, List.isEmpty_iff_length_eq_zero, List.isEmpty_iff_length_eq_zero, length]
  have option (more more' : List NamedOption) :
      Agrees (RelevanceArguments.mk args more true) ⟨args', more', true⟩ := ⟨length, rfl⟩
  have fields (e e' : Expr) :
      Agrees (RelevanceArguments.mk [e] options sawOption) ⟨[e'], options', sawOption⟩ := ⟨rfl, rfl⟩
  have argument (e e' : Expr) : Agrees (RelevanceArguments.mk (e :: args) options sawOption)
      ⟨e' :: args', options', sawOption⟩ := ⟨congrArg Nat.succ length, rfl⟩
  refine .of_lexemes fun ts => ?_
  simp only [length, empty, startsAssignment_map_lower]
  infer_instance

instance (function : Keyword) : Parallel (relevanceArguments expression function)
    (relevanceArguments expression function) := by
  have := parallel_relevanceArgument expression function
  unfold relevanceArguments
  infer_instance

instance : Parallel (arguments expression) (arguments expression) := by
  unfold arguments
  infer_instance

instance : Parallel (positionArguments expression additive) (positionArguments expression additive) := by
  unfold positionArguments
  infer_instance

@[simp] theorem startsExtractUnit_map_lower (ts : List Lexeme) :
    startsExtractUnit (ts.map .lower) = startsExtractUnit ts := by
  simp [startsExtractUnit]

instance : Parallel (extractArguments expression) (extractArguments expression) := by
  refine .of_lexemes fun ts => ?_
  cases ts with
  | nil => exact inferInstanceAs (Parallel (arguments expression) (arguments expression))
  | cons unit more =>
    have starts := startsExtractUnit_map_lower (unit :: more)
    rw [List.map_cons] at starts ⊢
    simp only [starts]
    infer_instance

instance : Parallel (rankedArguments expression) (rankedArguments expression) := by
  unfold rankedArguments
  infer_instance

instance (function : Keyword) (family : FunctionFamily) :
    Parallel (callArguments expression additive function family)
      (callArguments expression additive function family) := by
  unfold callArguments
  infer_instance

instance (function : Keyword) (family : FunctionFamily) :
    Parallel (call expression additive function family)
      (call expression additive function family) := by
  refine .bind fun place => .bind fun _ => .bind fun ⟨⟨args, options⟩, ⟨args', options'⟩, _⟩ => ?_
  refine .bind fun _ => ?_
  split
  · dsimp only
    split <;> split <;> infer_instance
  · infer_instance

instance : Parallel (interval additive) (interval additive) := by
  refine .bind fun _ => .bind fun value => .of_lexemes fun ts => ?_
  simp only [firstKind_map_lower]
  split <;> infer_instance

instance : Parallel (branch expression) (branch expression) := by
  unfold branch
  infer_instance

theorem startsElse_map_lower (ts : List Lexeme) : startsElse (ts.map .lower) = startsElse ts := by
  cases ts <;> simp [startsElse, isElse_lower]

instance : Parallel (case expression) (case expression) := by
  refine .bind fun _ => .bind fun _ => .bind fun branches => .of_lexemes fun ts => ?_
  simp only [startsElse_map_lower]
  infer_instance

instance : Parallel typeName typeName := by
  refine .of_lexemes fun ts => ?_
  rw [firstKind_map_lower]
  split <;> infer_instance

instance : Parallel (cast expression) (cast expression) := by
  unfold cast
  infer_instance

end Forms

/-! Levels of expressions. -/

section Levels

variable {operand additive deeper expression : StageParser Expr} [Parallel operand operand]
  [Parallel additive additive] [Parallel deeper deeper] [Parallel expression expression]
  {op? : StageParser (Option BinaryOp)}

instance (op? : TokenKind → Option BinaryOp) : Parallel (operator? op?) (operator? op?) := by
  refine .of_lexemes fun ts => ?_
  rw [firstKind_map_lower]
  split <;> infer_instance

instance (k : Keyword) (op : BinaryOp) :
    Parallel (keywordOperator? k op) (keywordOperator? k op) := by
  unfold keywordOperator?
  infer_instance

theorem startsImpliedOperand_map_lower (ts : List Lexeme) :
    startsImpliedOperand (ts.map .lower) = startsImpliedOperand ts := by
  cases ts <;> simp [startsImpliedOperand, isElse_lower]

instance : Parallel andOperator? andOperator? := by
  refine .bind_bool fun found => .ite _ inferInstance (.of_lexemes fun ts => ?_)
  simp only [startsImpliedOperand_map_lower]
  infer_instance

instance [Parallel op? op?] : Parallel (chain operand op?) (chain operand op?) := by
  refine .bind fun first => .iterate (fun left => .bind fun ⟨op, op', agree⟩ => ?_) ⟨trivial⟩
  cases agree <;> infer_instance

instance : Parallel (logical operand) (logical operand) := by
  unfold logical
  infer_instance

instance : Parallel (valueList expression) (valueList expression) := by
  unfold valueList
  infer_instance

theorem comparison?_map_lower (ts : List Lexeme) : comparison? (ts.map .lower) = comparison? ts := by
  simp [comparison?]

theorem startsComparison_map_lower (ts : List Lexeme) :
    startsComparison (ts.map .lower) = startsComparison ts := by
  simp [startsComparison, comparison?_map_lower]

instance (left left' : Expr) : Parallel (comparisonTail? additive expression left)
    (comparisonTail? additive expression left') := by
  refine .bind_bool fun found => .ite _ inferInstance (.of_lexemes fun ts => ?_)
  simp only [comparison?_map_lower]
  split <;> infer_instance

instance : Parallel (comparison additive expression) (comparison additive expression) := by
  refine .bind fun left => .bind fun ⟨tail, tail', agree⟩ => ?_
  cases agree with
  | none => infer_instance
  | some =>
    refine .of_lexemes fun ts => ?_
    simp only [startsComparison_map_lower]
    infer_instance

instance : Parallel (negation deeper operand) (negation deeper operand) := by
  unfold negation
  infer_instance

end Levels

end Parser

namespace Grammar

open PipedQuery.Parser

/-- Whether the grammar is made of parsers that run in parallel on lowered lexemes. -/
structure IgnoresCase (g : StageGrammar) : Prop where
  expression : Parallel g.expression g.expression
  negation : Parallel g.negation g.negation
  additive : Parallel g.additive g.additive
  unary : Parallel g.unary g.unary

/-- A grammar ignores letter case if its operands do. -/
theorem ignoresCase_ofUnary {unary deeperNegation : StageParser Expr} (hunary : Parallel unary unary)
    (hdeeper : Parallel deeperNegation deeperNegation) :
    (ofUnary unary deeperNegation).IgnoresCase := by
  have additive : Parallel (ofUnary unary deeperNegation).additive
      (ofUnary unary deeperNegation).additive :=
    inferInstanceAs (Parallel (chain (chain unary _) _) (chain (chain unary _) _))
  have condition (p : StageParser Expr) (_ : Parallel p p) :
      Parallel (Parser.negation deeperNegation (comparison (ofUnary unary deeperNegation).additive p))
        (Parser.negation deeperNegation (comparison (ofUnary unary deeperNegation).additive p)) :=
    inferInstance
  -- The list of a membership test is read by the parser that is being defined.
  have expression : Parallel (ofUnary unary deeperNegation).expression
      (ofUnary unary deeperNegation).expression :=
    parallel_fix fun p hp =>
      have := condition p hp
      inferInstanceAs (Parallel (logical _) (logical _))
  exact ⟨expression, condition _ expression, additive, hunary⟩

theorem primaryForm_map_lower (ts : List Lexeme) : primaryForm (ts.map .lower) = primaryForm ts := by
  simp [primaryForm]

/-- The innermost operands are read alike in any letter case. -/
theorem parallel_primary {deeper : StageGrammar} (h : deeper.IgnoresCase) :
    Parallel (primary deeper) (primary deeper) := by
  have := h.expression
  have := h.additive
  refine .of_lexemes fun ts => ?_
  rw [primaryForm_map_lower]
  cases ts with
  | nil => exact inferInstanceAs (Parallel (fail _) (fail _))
  | cons l ts =>
    rw [List.map_cons]
    cases form : primaryForm (l :: ts) with
    | number =>
      rw [Lexeme.lower_of_isNumber (isNumber_of_primaryForm form)]
      infer_instance
    | date kind =>
      cases ts with
      | nil => exact inferInstanceAs (Parallel (fail _) (fail _))
      | cons m ts =>
        rw [List.map_cons]
        infer_instance
    | _ => infer_instance

theorem parallel_signed {deeper : StageGrammar} (h : deeper.IgnoresCase) :
    Parallel (signed deeper) (signed deeper) := by
  have := h.unary
  have := parallel_primary h
  unfold signed
  infer_instance

/-- However many levels are left, an expression is read of lowered lexemes as of the lexemes. -/
theorem ignoresCase_level (n : Nat) : (level n).IgnoresCase := by
  induction n with
  | zero => exact ignoresCase_ofUnary inferInstance inferInstance
  | succ n ih => exact ignoresCase_ofUnary (parallel_signed ih) ih.negation

end Grammar

namespace Parser

-- A command is a chain of many parsers, and each takes a few steps of the search for instances.
set_option synthInstance.maxSize 1000

/-! Stages that read, keep and order rows. -/

instance (clause clause' : Clause) : Parallel (need clause) (need clause') := by
  unfold need
  infer_instance

section Stages

variable {grammar : StageGrammar} (h : grammar.IgnoresCase)

theorem startsSourceClause_map_lower (ts : List Lexeme) :
    startsSourceClause (ts.map .lower) = startsSourceClause ts := by
  simp [startsSourceClause, startsOption]

instance : Parallel dataSource dataSource := by
  refine .of_peek inferInstance fun l => ?_
  simp only [Lexeme.lower_kind, startsWithAt_lower]
  split <;> infer_instance

instance : Parallel sourceClause sourceClause := by
  unfold sourceClause
  infer_instance

include h in
theorem parallel_searchBody : Parallel (searchBody grammar) (searchBody grammar) := by
  have := h.expression
  refine .of_lexemes fun ts => ?_
  simp only [startsSourceClause_map_lower]
  refine .ite _ inferInstance (.bind fun _ => .bind fun filter => .of_lexemes fun ts => ?_)
  simp only [startsSourceClause_map_lower]
  infer_instance

instance : Parallel describe describe := by
  unfold describe
  infer_instance

instance : Parallel showDatasources showDatasources := by
  unfold showDatasources
  infer_instance

include h in
theorem parallel_filter : Parallel (filter grammar) (filter grammar) := by
  have := h.expression
  unfold filter
  infer_instance

instance : Parallel fields fields := by
  unfold fields
  infer_instance

instance : Parallel renamePair renamePair := by
  unfold renamePair
  infer_instance

instance : Parallel rename rename := by
  unfold rename
  infer_instance

include h in
theorem parallel_eval : Parallel (eval grammar) (eval grammar) := by
  have := h.expression
  have : Parallel (assignment grammar) (assignment grammar) := by
    unfold assignment
    infer_instance
  unfold eval
  infer_instance

theorem startsSortCast?_map_lower (ts : List Lexeme) :
    startsSortCast? (ts.map .lower) = startsSortCast? ts := by
  simp [startsSortCast?]

instance : Parallel sortKey sortKey := by
  refine .bind_bool fun minus => ?_
  dsimp only
  refine .ite _ (.of_lexemes fun ts => ?_) (.bind fun _ => .of_lexemes fun ts => ?_)
  all_goals
    rw [startsSortCast?_map_lower]
    infer_instance

instance : Parallel sort sort := by
  unfold sort
  infer_instance

instance : Parallel head head := by
  unfold head
  infer_instance

/-! Aggregations and rankings. -/

include h in
/-- Aggregations are read alike in any letter case. -/
theorem parallel_aggregation : Parallel (aggregation grammar) (aggregation grammar) := by
  have := h.expression
  have := h.additive
  refine .of_lexemes fun ts => ?_
  cases ts with
  | nil => exact inferInstanceAs (Parallel (fail _) (fail _))
  | cons l ts =>
    have second := secondKind_map_lower (l :: ts)
    have kind := l.lower_kind
    rw [List.map_cons] at second ⊢
    generalize l.lower = l', ts.map Lexeme.lower = ts' at second kind ⊢
    obtain ⟨k, text⟩ := l
    obtain ⟨k', text'⟩ := l'
    dsimp only at kind
    subst kind
    cases k' with
    | keyword k =>
      simp only [second]
      refine .ite _ inferInstance ?_
      split <;> infer_instance
    | _ => infer_instance

instance : Parallel bucketUnit? bucketUnit? := by
  refine .of_lexemes fun ts => ?_
  simp only [firstKind_map_lower]
  split <;> infer_instance

instance : Parallel bucket bucket := by
  unfold bucket
  infer_instance

theorem startsBucket_map_lower (ts : List Lexeme) :
    startsBucket (ts.map .lower) = startsBucket ts := by
  simp [startsBucket]

instance : Parallel grouping grouping := by
  refine .bind_bool fun by_ => .ite _ (.of_lexemes fun ts => ?_) inferInstance
  simp only [startsBucket_map_lower]
  infer_instance

instance (t : Twins Stats) : Parallel (statsOption? t.fst) (statsOption? t.snd) := by
  unfold statsOption?
  infer_instance

include h in
theorem parallel_stats : Parallel (stats grammar) (stats grammar) := by
  have := parallel_aggregation h
  refine .bind fun _ => .bind fun s => .bind fun _ => .bind fun aggregations => ?_
  refine .bind fun ⟨⟨span, groupBy⟩, ⟨span', groupBy'⟩, _⟩ => ?_
  infer_instance

instance (command : String) : Parallel (skipUnknownOption command) (skipUnknownOption command) := by
  refine .of_peek inferInstance fun name => ?_
  infer_instance

instance (t : Twins Dedup) : Parallel (dedupOption? t.fst) (dedupOption? t.snd) := by
  unfold dedupOption?
  infer_instance

instance : Parallel dedup dedup := by
  unfold dedup
  infer_instance

instance : Parallel rank rank := by
  refine .of_peek ?_ fun l => ?_
  all_goals infer_instance

/-! Extractions and learning. -/

instance : Parallel pattern pattern := by
  refine .bind fun ⟨s, s', agree⟩ => ?_
  cases agree <;> infer_instance

instance : Parallel parse parse := by
  refine .bind fun _ => .bind fun source => .bind fun place => .bind fun pattern => ?_
  dsimp only
  cases Pattern.groupNames? pattern.fst <;> cases Pattern.groupNames? pattern.snd <;> infer_instance

instance : Parallel grok grok := by
  unfold grok
  infer_instance

instance (t : Twins PatternsOptions) : Parallel (patternsOption? t.fst) (patternsOption? t.snd) := by
  refine .bind_bool fun assigned => .ite _ ?_ inferInstance
  refine .bind_bool fun isNewField => .ite _ inferInstance ?_
  refine .bind_bool fun isPattern => .ite _ ?_ inferInstance
  refine .bind fun _ => .bind fun place => .bind fun pattern => ?_
  cases Pattern.groupNames? pattern.fst <;> cases Pattern.groupNames? pattern.snd <;> infer_instance

instance : Parallel patterns patterns := by
  unfold patterns
  infer_instance

instance (algorithm : Algorithm) (t : Twins (List Parameter)) :
    Parallel (parameter? algorithm t.fst) (parameter? algorithm t.snd) := by
  refine .bind_bool fun atEnd => .ite _ inferInstance ?_
  refine .bind_bool fun assigned => .ite _ ?_ inferInstance
  refine .bind fun place => .of_peek inferInstance fun name => ?_
  refine .bind fun _ => .bind fun valuePlace => .bind fun value => ?_
  simp only [Lexeme.lower_kind]
  split
  · infer_instance
  · split <;> split <;> infer_instance

instance (algorithm : Algorithm) : Parallel (learn algorithm) (learn algorithm) := by
  unfold learn
  infer_instance

include h in
/-- A command is read of lowered lexemes as it is of the lexemes, and so far that it has the same
    name. -/
theorem parallel_command (first : Bool) :
    Parallel (command grammar first) (command grammar first) := by
  have := parallel_searchBody h
  have := parallel_filter h
  have := parallel_eval h
  have := parallel_stats h
  refine .of_lexemes fun ts => ?_
  simp only [firstKind_map_lower]
  split <;> infer_instance

end Stages

end Parser

end PipedQuery
