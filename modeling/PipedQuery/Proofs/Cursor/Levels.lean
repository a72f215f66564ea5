import PipedQuery.Proofs.Cursor.Refines
import PipedQuery.Proofs.Grammar.Forward

/-!
# Expressions in the midst of a query

Every parser of the grammar of expressions reads at a cursor what it reads of the stage around it.
For most of them that is found by the instances of `Parser.Refines`.  What is shown here is what they
rest on.  A parser that looks ahead finds nothing it looks for behind a pipe, so a pipe ends names,
operands and chains as the end of a stage does (`Parser.primaryForm_fence`,
`Parser.comparison?_fence`).

The two also count levels in different ways: the grammar of a stage is built level by level
(`Grammar.level`), and the one at a cursor raises a counter and lowers it again.  They come to the
same (`Cursor.refines_nested`, `Cursor.refines_level`).
-/

namespace PipedQuery

namespace Parser

open Cursor

variable {e : Setting} {n : Nat} {ts us : List Lexeme}

/-! Names and constants. -/

theorem namePart?_pipe (anyKeyword : Bool) {l : Lexeme} (pipe : l.kind = .mark .pipe) :
    namePart? anyKeyword l = none := by
  rw [namePart?, pipe]

/-- No part of a name stands beyond the stage. -/
theorem nextPart?_fence (fence : Fence us) : nextPart? (ts ++ us) = nextPart? ts := by
  rcases ts with _ | ⟨dot, _ | ⟨l, ts⟩⟩
  · cases fence with
    | none => rfl
    | @pipe l us kind => cases us <;> simp [nextPart?, kind]
  · cases fence with
    | none => rfl
    | pipe kind => simp [nextPart?, namePart?_pipe true kind]
  · rfl

theorem length_of_nextPart? {part : String} (h : nextPart? ts = some part) : 2 ≤ ts.length := by
  unfold nextPart? at h
  split at h
  · simp
  · cases h

instance : Refines e n dottedPart? dottedPart? := by
  refine .of_lexemes fun ts us fence _ => ?_
  rw [nextPart?_fence fence]
  split
  · next part found => exact .of_skip (length_of_nextPart? found) inferInstance
  · infer_instance

instance (source : Bool) : Refines e n (qualifiedName source) (qualifiedName source) := by
  have steps (name : String) : Refines e 0
      (do match ← dottedPart? with
          | some part => return some (name ++ "." ++ part)
          | none => return none : Parser Cursor (Option String))
      (do match ← dottedPart? with
          | some part => return some (name ++ "." ++ part)
          | none => return none) := by
    refine .bind fun part => ?_
    cases part <;> infer_instance
  refine .of_peek (fun l => ?_) fun _ => ⟨inferInstanceAs (Refines e 0 (fail _) (fail _)), ?_⟩
  · rw [Option.bind_some]
    split
    · infer_instance
    · exact .of_skip (Nat.le_max_left 1 n) (.iterate steps _)
  · intro l pipe
    rw [Option.bind_some, namePart?_pipe source pipe]
    rfl

instance : Refines e n fieldName fieldName :=
  inferInstanceAs (Refines e n (qualifiedName false) (qualifiedName false))

instance : Refines e n alias? alias? := by
  unfold alias?
  infer_instance

theorem refines_number (l : Lexeme) (some : 1 ≤ n) : Refines e n (number l) (number l) := by
  refine .of_remaining fun place placed => .of_skip some ?_
  split
  · infer_instance
  · exact refines_failAt placed _

instance (what : Expected) : Refines e n (plainNumber what) (plainNumber what) := by
  refine .of_peek (fun l => ?_) fun _ => ⟨inferInstanceAs (Refines e 0 (fail _) (fail _)), ?_⟩
  · dsimp only
    split
    · exact refines_number l (Nat.le_max_left 1 n)
    · infer_instance
  · intro l pipe
    simp [pipe, TokenKind.isNumber]

instance : Refines e n unsignedLiteral unsignedLiteral := by
  refine .of_peek (fun l => ?_) fun _ => ⟨inferInstanceAs (Refines e 0 (fail _) (fail _)), ?_⟩
  · have one := Nat.le_max_left 1 n
    dsimp only
    split
    case h_1 | h_2 =>
      split
      · exact .of_skip one inferInstance
      · infer_instance
    case h_7 => infer_instance
    all_goals exact .of_skip one inferInstance
  · intro l pipe
    simp [pipe]

/-- A sign and its number do not stand on both sides of a boundary. -/
theorem startsNegative_fence (fence : Fence us) : startsNegative (ts ++ us) = startsNegative ts :=
  kinds_fence (fun first second => first = some (.mark .minus) && second.any TokenKind.isNumber)
    (by simp) (by simp [TokenKind.isNumber]) fence

theorem length_pos_of_startsNegative (h : startsNegative ts = true) : 1 ≤ ts.length := by
  cases ts with
  | nil => cases h
  | cons l ts => exact Nat.succ_pos _

instance : Refines e n literal literal := by
  refine .of_lexemes fun ts us fence _ => ?_
  rw [startsNegative_fence fence]
  split
  · next negative => exact .of_skip (length_pos_of_startsNegative negative) inferInstance
  · infer_instance

instance : Refines e n integer integer := by
  refine .of_remaining fun place placed => ?_
  refine .of_peek (fun l => ?_) fun _ => ⟨inferInstanceAs (Refines e 0 (fail _) (fail _)), ?_⟩
  · dsimp only
    split
    · refine .of_skip (Nat.le_max_left 1 n) ?_
      split
      · infer_instance
      · exact refines_failAt placed _
    · infer_instance
  · intro l pipe
    simp [pipe]

instance : Refines e n integer? integer? := by
  unfold integer?
  infer_instance

instance : Refines e n boolean boolean := by
  unfold boolean
  infer_instance

instance : Refines e n string? string? := by
  refine .of_peek (fun l => ?_) fun _ => ⟨inferInstanceAs (Refines e 0 (pure _) (pure _)), ?_⟩
  · dsimp only
    split
    · exact .of_skip (Nat.le_max_left 1 n) inferInstance
    · infer_instance
  · intro l pipe
    simp [pipe, TokenKind.isString]

instance : Refines e n string string := by
  refine .bind fun s => ?_
  cases s <;> infer_instance

/-! Calls and special forms. -/

instance : Refines e n optionValue optionValue := by
  refine .of_lexemes fun ts us fence _ => ?_
  obtain same | ⟨rfl, pipe⟩ := firstKind_fence ts fence
  · rw [same]
    split
    · infer_instance
    · split <;> infer_instance
    · infer_instance
  · rw [pipe]
    exact inferInstanceAs (Refines e 0 literal literal)

theorem refines_namedOption (function : Keyword) (some : 1 ≤ n) :
    Refines e n (namedOption function) (namedOption function) := by
  refine .of_remaining fun place placed => ?_
  refine .of_peek (fun name => ?_) fun none => absurd none (Nat.ne_of_gt some)
  refine .of_skip (Nat.le_max_left 1 n) (.bind fun _ => .bind fun value => ?_)
  split
  · infer_instance
  · exact (refines_raiseAt placed _).andThen fun _ => inferInstance

instance : Refines e n weight weight := by
  refine .bind fun v => ?_
  cases v <;> infer_instance

instance : Refines e n weightedField weightedField := by
  refine .bind fun s => ?_
  cases s <;> infer_instance

instance : Refines e n weightedFields weightedFields := by
  unfold weightedFields
  infer_instance

section Calls

variable {expression additive : Parser Cursor Expr} {expression' additive' : StageParser Expr}
  [Refines e 0 expression expression'] [Refines e 0 additive additive']

instance (function : Keyword) (required : Nat) (args : RelevanceArguments) :
    Refines e n (relevanceArgument expression function required args)
      (relevanceArgument expression' function required args) := by
  refine .of_lexemes fun ts us fence _ => ?_
  rw [startsAssignment_fence fence]
  split
  · next assigned =>
    have two := length_of_startsAssignment (Bool.and_eq_true_iff.mp assigned).2
    have := refines_namedOption (e := e) function (Nat.le_of_succ_le two)
    infer_instance
  · infer_instance

instance (function : Keyword) :
    Refines e n (relevanceArguments expression function)
      (relevanceArguments expression' function) := by
  unfold relevanceArguments
  infer_instance

instance : Refines e n (arguments expression) (arguments expression') := by
  unfold arguments
  infer_instance

instance : Refines e n (positionArguments expression additive)
    (positionArguments expression' additive') := by
  unfold positionArguments
  infer_instance

/-- A unit and the word `from` do not stand on both sides of a boundary. -/
theorem startsExtractUnit_fence (fence : Fence us) :
    startsExtractUnit (ts ++ us) = startsExtractUnit ts := by
  rcases ts with _ | ⟨l, _ | ⟨l', ts⟩⟩ <;> cases fence with
  | none => rfl
  | pipe kind => simp [startsExtractUnit, kind]

instance : Refines e n (extractArguments expression) (extractArguments expression') := by
  refine .of_lexemes fun ts us fence _ => ?_
  have look : startsExtractUnit (ts ++ us) = startsExtractUnit ts := startsExtractUnit_fence fence
  cases ts with
  | nil =>
    cases us with
    | nil => exact inferInstanceAs (Refines e 0 (arguments _) (arguments _))
    | cons l us =>
      dsimp only [List.nil_append] at look ⊢
      rw [look]
      exact inferInstanceAs (Refines e 0 (arguments _) (arguments _))
  | cons unit ts =>
    dsimp only [List.cons_append] at look ⊢
    rw [look]
    split
    · exact .of_skip (Nat.succ_pos _) inferInstance
    · infer_instance

instance : Refines e n (rankedArguments expression) (rankedArguments expression') := by
  unfold rankedArguments
  infer_instance

instance (function : Keyword) (family : FunctionFamily) :
    Refines e n (callArguments expression additive function family)
      (callArguments expression' additive' function family) := by
  unfold callArguments
  infer_instance

theorem refines_call (function : Keyword) (family : FunctionFamily) (some : 1 ≤ n) :
    Refines e n (call expression additive function family)
      (call expression' additive' function family) := by
  refine .of_remaining fun place placed =>
    .of_skip some (.bind fun ⟨args, options⟩ => .bind fun _ => ?_)
  have := refines_raiseAt (n := 0) placed
  split <;> infer_instance

theorem refines_interval (some : 1 ≤ n) : Refines e n (interval additive) (interval additive') := by
  refine .of_skip some (.bind fun value => ?_)
  refine .of_lexemes fun ts us fence _ => ?_
  obtain same | ⟨rfl, pipe⟩ := firstKind_fence ts fence
  · rw [same]
    split
    · next unit found =>
      split
      · exact .of_skip (length_pos_of_firstKind found) inferInstance
      · infer_instance
    · infer_instance
  · rw [pipe]
    exact inferInstanceAs (Refines e 0 (fail _) (fail _))

instance : Refines e n (branch expression) (branch expression') := by
  unfold branch
  infer_instance

/-- The word `else` is told from a field by the lexemes of the stage. -/
theorem startsElse_fence (fence : Fence us) : startsElse (ts ++ us) = startsElse ts := by
  cases ts with
  | cons l ts => rfl
  | nil =>
    cases fence with
    | none => rfl
    | pipe kind => simp [startsElse, kind]

theorem refines_case (some : 1 ≤ n) : Refines e n (case expression) (case expression') := by
  refine .of_skip some (.bind fun _ => .bind fun branches => ?_)
  refine .of_lexemes fun ts us fence _ => ?_
  rw [startsElse_fence fence]
  split
  · next found =>
    have some : 1 ≤ ts.length := by
      cases ts with
      | nil => cases found
      | cons l ts => exact Nat.succ_pos _
    exact .of_skip some inferInstance
  · infer_instance

instance : Refines e n typeName typeName := by
  refine .of_lexemes fun ts us fence _ => ?_
  obtain same | ⟨rfl, pipe⟩ := firstKind_fence ts fence
  · rw [same]
    split
    · next type found =>
      obtain ⟨k, known, -⟩ := Option.bind_eq_some_iff.mp found
      obtain ⟨kind, first, -⟩ := Option.bind_eq_some_iff.mp known
      exact .of_skip (length_pos_of_firstKind first) inferInstance
    · infer_instance
  · rw [pipe]
    exact inferInstanceAs (Refines e 0 (fail _) (fail _))

theorem refines_cast (some : 1 ≤ n) : Refines e n (cast expression) (cast expression') :=
  .of_skip some inferInstance

end Calls

/-! Operators. -/

/-- A pipe is no operator. -/
theorem refines_operator? {op? : TokenKind → Option BinaryOp} (other : op? (.mark .pipe) = none) :
    Refines e n (operator? op?) (operator? op?) := by
  refine .of_lexemes fun ts us fence _ => ?_
  obtain same | ⟨rfl, pipe⟩ := firstKind_fence ts fence
  · rw [same]
    split
    · next op found =>
      obtain ⟨kind, first, -⟩ := Option.bind_eq_some_iff.mp found
      exact .of_skip (length_pos_of_firstKind first) inferInstance
    · infer_instance
  · rw [pipe, Option.bind_some, other]
    exact inferInstanceAs (Refines e 0 (pure _) (pure _))

instance (k : Keyword) (op : BinaryOp) :
    Refines e n (keywordOperator? k op) (keywordOperator? k op) := by
  unfold keywordOperator?
  infer_instance

/-- No operand is implied at a boundary. -/
theorem startsImpliedOperand_fence (fence : Fence us) :
    startsImpliedOperand (ts ++ us) = startsImpliedOperand ts := by
  rcases ts with _ | ⟨l, _ | ⟨l', ts⟩⟩
  · cases fence with
    | none => rfl
    | pipe kind => simp [startsImpliedOperand, kind]
  · cases fence with
    | none => rfl
    | pipe kind =>
      have other : (some (TokenKind.mark .pipe) != some (.mark .equal)) =
        (none != some (TokenKind.mark .equal)) := rfl
      simp [startsImpliedOperand, kind, other]
  · rfl

instance : Refines e n andOperator? andOperator? := by
  have look : Refines e 0
      (do if startsImpliedOperand (← lexemes) then return some .and else return none :
        Parser Cursor (Option BinaryOp))
      (do if startsImpliedOperand (← lexemes) then return some .and else return none) := by
    refine .of_lexemes fun ts us fence _ => ?_
    rw [startsImpliedOperand_fence fence]
    infer_instance
  unfold andOperator?
  infer_instance

section Levels

variable {operand additive expression deeper : Parser Cursor Expr}
  {operand' additive' expression' deeper' : StageParser Expr}

/-- A chain of operands goes on at a cursor where it does in the stage. -/
theorem Refines.chain {op? : Parser Cursor (Option BinaryOp)} {op?' : StageParser (Option BinaryOp)}
    (operands : Refines e 0 operand operand') (operators : Refines e 0 op? op?') :
    Refines e n (chain operand op?) (chain operand' op?') := by
  refine .bind fun first => .iterate (fun left => .bind fun op => ?_) first
  cases op <;> infer_instance

variable [Refines e 0 additive additive'] [Refines e 0 expression expression']

instance : Refines e n (valueList expression) (valueList expression') := by
  unfold valueList
  infer_instance

/-- No comparison starts at a boundary. -/
theorem comparison?_fence (fence : Fence us) : comparison? (ts ++ us) = comparison? ts := by
  rcases ts with _ | ⟨l, _ | ⟨l', ts⟩⟩
  · cases fence with
    | none => rfl
    | pipe kind => simp [comparison?, kind]
  · cases fence with
    | none => rfl
    | pipe kind => simp [comparison?, kind]
  · rfl

theorem startsComparison_fence (fence : Fence us) :
    startsComparison (ts ++ us) = startsComparison ts := by
  rw [startsComparison, startsComparison, comparison?_fence fence,
    decide_eq_decide.mpr (firstKind_eq_iff fence (.keyword .in_))]

instance (left : Expr) : Refines e n (comparisonTail? additive expression left)
    (comparisonTail? additive' expression' left) := by
  refine .bind fun found => ?_
  split
  · infer_instance
  refine .of_lexemes fun ts us fence _ => ?_
  rw [comparison?_fence fence]
  split
  · next op found =>
    have some : 1 ≤ ts.length := by
      cases ts with
      | nil => cases found
      | cons l ts => exact Nat.succ_pos _
    exact .of_skip some inferInstance
  · infer_instance

instance : Refines e n (comparison additive expression) (comparison additive' expression') := by
  refine .bind fun left => .bind fun tail => ?_
  cases tail with
  | none => infer_instance
  | some e =>
    refine .of_lexemes fun ts us fence _ => ?_
    rw [startsComparison_fence fence]
    infer_instance

theorem Refines.negation (deepers : Refines e 0 deeper deeper')
    (operands : Refines e 0 operand operand') :
    Refines e n (negation deeper operand) (negation deeper' operand') := by
  unfold Parser.negation
  infer_instance

theorem Refines.logical (operands : Refines e 0 operand operand') :
    Refines e n (logical operand) (logical operand') :=
  .chain (.chain (.chain operands inferInstance) inferInstance) inferInstance

end Levels

end Parser

/-! Levels. -/

namespace Grammar

open PipedQuery.Parser Cursor

/-- Whether all parsers of a grammar keep to the stage. -/
structure Refines (e : Setting) (g : Grammar Cursor) (g' : StageGrammar) : Prop where
  expression : Parser.Refines e 0 g.expression g'.expression
  negation : Parser.Refines e 0 g.negation g'.negation
  additive : Parser.Refines e 0 g.additive g'.additive
  unary : Parser.Refines e 0 g.unary g'.unary

/-- A keyword in front of a pipe means what it means at the end of the stage. -/
theorem keywordForm_pipe (k : Keyword) :
    keywordForm k (some (.mark .pipe)) = keywordForm k none := by
  simp [keywordForm, TokenKind.isString, startsIntervalValue]

/-- What an operand is told by stands in its stage. -/
theorem primaryForm_fence {ts us : List Lexeme} (fence : Fence us) :
    primaryForm (ts ++ us) = primaryForm ts := by
  rcases ts with _ | ⟨l, _ | ⟨l', ts⟩⟩
  · cases fence with
    | none => rfl
    | pipe kind => simp [primaryForm, kind]
  · cases fence with
    | none => rfl
    | pipe kind => simp [primaryForm, kind, keywordForm_pipe]
  · rfl

variable {e : Setting}

/-- The levels above signed operands keep to the stage if these do. -/
theorem refines_ofUnary {unary deeper : Parser Cursor Expr} {unary' deeper' : StageParser Expr}
    (unaries : Parser.Refines e 0 unary unary') (deepers : Parser.Refines e 0 deeper deeper') :
    Refines e (ofUnary unary deeper) (ofUnary unary' deeper') := by
  have additive :
      Parser.Refines e 0 (ofUnary unary deeper).additive (ofUnary unary' deeper').additive :=
    .chain (.chain unaries (refines_operator? rfl)) (refines_operator? rfl)
  have condition (a p) (h : Parser.Refines e 0 a p) :
      Parser.Refines e 0 (Parser.negation deeper (comparison (ofUnary unary deeper).additive a))
        (Parser.negation deeper' (comparison (ofUnary unary' deeper').additive p)) :=
    .negation deepers inferInstance
  have expression :
      Parser.Refines e 0 (ofUnary unary deeper).expression (ofUnary unary' deeper').expression :=
    refines_fix fun a p h => .logical (condition a p h)
  exact ⟨expression, condition _ _ expression, additive, unaries⟩

section Primary

variable {deeper : Grammar Cursor} {deeper' : StageGrammar} (h : Refines e deeper deeper')
include h

/-- A primary expression keeps to the stage if its parts do. -/
theorem refines_primary : Parser.Refines e 0 (primary deeper) (primary deeper') := by
  have := h.expression
  have := h.additive
  refine .of_lexemes fun ts us fence _ => ?_
  rw [primaryForm_fence fence]
  cases ts with
  | nil => cases us <;> exact inferInstanceAs (Parser.Refines e 0 (fail _) (fail _))
  | cons l ts =>
    have one : 1 ≤ (l :: ts).length := Nat.succ_pos _
    rw [List.cons_append]
    cases form : primaryForm (l :: ts) with
    | number => exact (refines_number l one).andThen fun v => inferInstance
    | date kind =>
      have string := isString_of_primaryForm form
      cases ts with
      | nil => cases string
      | cons l' ts => exact .of_skip (Nat.le_add_left 2 _) inferInstance
    | string | group | boolean value => exact .of_skip one inferInstance
    | interval => exact refines_interval one
    | case => exact refines_case one
    | cast => exact refines_cast one
    | call function family => exact refines_call function family one
    | unknownCall | field | none => infer_instance

/-- Signs are read within the stage. -/
theorem refines_signed : Parser.Refines e 0 (signed deeper) (signed deeper') := by
  have := h.unary
  have := refines_primary h
  unfold signed
  infer_instance

end Primary

end Grammar

namespace Cursor

open PipedQuery.Parser

variable {e : Setting} {α : Type} {a : Parser Cursor α} {p : StageParser α}

/-- One level deeper in the same place. -/
def Setting.deeper (e : Setting) : Setting := { e with depth := e.depth + 1 }

/-- A parser that runs one level deeper comes back from there. -/
theorem refines_nested (room : e.depth < maxNesting) (h : Refines e.deeper 0 a p) :
    Refines e 0 (nested a) p where
  at_ c inside _ := by
    have placed : { c with depth := c.depth + 1 }.In e.deeper :=
      ⟨congrArg (· + 1) inside.depth, inside.beyond, inside.short⟩
    obtain ⟨seen, suffix, within⟩ := h.at_ _ placed (Nat.zero_le _)
    refine ⟨?_, suffix, within⟩
    rw [nested, if_neg (Nat.not_le_of_lt (inside.depth ▸ room)), seen]
    rfl

/-- Where no level is left, an expression is refused. -/
theorem refines_nested_full (full : maxNesting ≤ e.depth) :
    Refines e 0 (nested a) (fail .nestedTooDeeply : StageParser α) where
  at_ c inside _ := by
    have stopped : Refines e 0 (fail .nestedTooDeeply : Parser Cursor α) (fail .nestedTooDeeply) :=
      inferInstance
    rw [nested, if_pos (inside.depth ▸ full)]
    exact stopped.at_ c inside (Nat.zero_le _)

/-- The grammar keeps to the stage.  It has as many levels left as can still be opened. -/
theorem refines_level {n : Nat} (enough : maxNesting ≤ n + e.depth) :
    (level n).Refines e (Grammar.level (maxNesting - e.depth)) := by
  induction n generalizing e with
  | zero =>
    rw [Nat.sub_eq_zero_of_le (Nat.zero_add e.depth ▸ enough)]
    exact Grammar.refines_ofUnary inferInstance inferInstance
  | succ n ih =>
    by_cases room : e.depth < maxNesting
    · have deeper : (level n).Refines e.deeper (Grammar.level (maxNesting - (e.depth + 1))) :=
        ih (e := e.deeper) (by simp only [Setting.deeper]; omega)
      have levels : maxNesting - e.depth = maxNesting - (e.depth + 1) + 1 := by omega
      rw [levels]
      exact Grammar.refines_ofUnary (refines_nested room (Grammar.refines_signed deeper))
        (refines_nested room deeper.negation)
    · rw [Nat.sub_eq_zero_of_le (Nat.le_of_not_lt room)]
      exact Grammar.refines_ofUnary (refines_nested_full (Nat.le_of_not_lt room))
        (refines_nested_full (Nat.le_of_not_lt room))

end Cursor

end PipedQuery
