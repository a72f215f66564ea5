import PipedQuery.Proofs.Grammar.Kept

/-!
# What holds of every level

Each level of the grammar gives expressions with a property that the ways to build expressions keep,
for the number of levels that are left there (`Grammar.gives_level`).
-/

namespace PipedQuery

variable {A : Cause → Prop}

namespace Parser

section Forms

variable {Q : Expr → Prop} {expression additive : StageParser Expr}

theorem gives_interval (h : Gives A additive Q) :
    Gives A (interval additive) fun e => ∃ value unit, e = .interval value unit ∧ Q value ∧
      unit.isIntervalUnit = true := by
  apply gives_bind (gives_skip 1)
  intro _ _
  apply gives_bind h
  intro value hvalue
  apply gives_bind gives_lexemes
  intro ts _
  split
  · next unit _ =>
    split
    · next known =>
      apply gives_bind (gives_skip 1)
      intro _ _
      exact gives_pure ⟨value, unit, rfl, hvalue, known⟩
    · exact gives_fail _ nofun
  · exact gives_fail _ nofun

theorem gives_branch (h : Gives A expression Q) :
    Gives A (branch expression) fun b => Q b.1 ∧ Q b.2 := by
  apply gives_bind h
  intro condition hcondition
  apply gives_bind (gives_expectMark .comma)
  intro _ _
  apply gives_bind h
  intro value hvalue
  exact gives_pure ⟨hcondition, hvalue⟩

theorem gives_case (h : Gives A expression Q) :
    Gives A (case expression) fun e => ∃ branches fallback, e = .case branches fallback ∧
      branches ≠ [] ∧ (∀ b ∈ branches, Q b.1 ∧ Q b.2) ∧ ∀ e ∈ fallback, Q e := by
  apply gives_bind (gives_skip 1)
  intro _ _
  apply gives_bind (gives_expectMark .lParen)
  intro _ _
  apply gives_bind (gives_list (gives_branch h))
  intro branches all
  apply gives_bind gives_lexemes
  intro ts _
  have closed (fallback : Option Expr) (hfallback : ∀ e ∈ fallback, Q e) :
      Gives A (do expectMark .rParen; return .case branches fallback : StageParser Expr) fun e =>
        ∃ branches fallback, e = .case branches fallback ∧ branches ≠ [] ∧
          (∀ b ∈ branches, Q b.1 ∧ Q b.2) ∧ ∀ e ∈ fallback, Q e := by
    apply gives_bind (gives_expectMark .rParen)
    intro _ _
    exact gives_pure ⟨branches, fallback, rfl, all.1, all.2, hfallback⟩
  dsimp only
  split
  · apply gives_bind (gives_skip 1)
    intro _ _
    apply gives_bind h
    intro e he
    exact gives_bind (gives_some he) closed
  · exact gives_bind gives_none closed

theorem gives_typeName : Gives A typeName fun _ => True := by
  apply gives_bind gives_lexemes
  intro ts _
  split
  · exact gives_bind (gives_skip 1) fun _ _ => gives_pure trivial
  · exact gives_fail _ nofun

theorem gives_cast (h : Gives A expression Q) :
    Gives A (cast expression) fun e => ∃ value target, e = .cast value target ∧ Q value := by
  apply gives_bind (gives_skip 1)
  intro _ _
  apply gives_bind (gives_expectMark .lParen)
  intro _ _
  apply gives_bind h
  intro value hvalue
  apply gives_bind (gives_expectKeyword .as_)
  intro _ _
  apply gives_bind gives_typeName
  intro type _
  apply gives_bind (gives_expectMark .rParen)
  intro _ _
  exact gives_pure ⟨value, type, rfl, hvalue⟩

end Forms

section Levels

variable {Q : Expr → Prop} {operand additive expression deeper : StageParser Expr}
  {op? : StageParser (Option BinaryOp)}
  (binary : ∀ op left right, Q left → Q right → Q (.binary op left right))

theorem gives_operator? (op? : TokenKind → Option BinaryOp) :
    Gives A (operator? op?) fun _ => True := by
  apply gives_bind gives_lexemes
  intro ts _
  split
  · exact gives_bind (gives_skip 1) fun _ _ => gives_pure trivial
  · exact gives_pure trivial

theorem gives_keywordOperator? (k : Keyword) (op : BinaryOp) :
    Gives A (keywordOperator? k op) fun _ => True := by
  apply gives_bind (gives_eatKeyword k)
  intro found _
  split
  · exact gives_pure trivial
  · exact gives_pure trivial

theorem gives_andOperator? : Gives A andOperator? fun _ => True := by
  apply gives_bind (gives_eatKeyword .and_)
  intro found _
  split
  · exact gives_pure trivial
  · apply gives_bind gives_lexemes
    intro ts _
    split
    · exact gives_pure trivial
    · exact gives_pure trivial

include binary in
theorem gives_chain (h : Gives A operand Q) (operator : Gives A op? fun _ => True) :
    Gives A (chain operand op?) Q := by
  apply gives_bind h
  intro first hfirst
  apply gives_iterate _ hfirst
  intro left hleft
  apply gives_bind operator
  rintro (_ | op) _
  · exact gives_none
  · exact gives_bind h fun right hright => gives_some (binary op left right hleft hright)

include binary in
theorem gives_logical (h : Gives A operand Q) : Gives A (logical operand) Q :=
  gives_chain binary (gives_chain binary (gives_chain binary h gives_andOperator?)
    (gives_keywordOperator? ..)) (gives_keywordOperator? ..)

theorem gives_valueList (h : Gives A expression Q) :
    Gives A (valueList expression) fun es => es ≠ [] ∧ ∀ e ∈ es, Q e := by
  apply gives_bind (gives_expectMark .lParen)
  intro _ _
  apply gives_bind (gives_list h)
  intro es all
  apply gives_bind (gives_expectMark .rParen)
  intro _ _
  exact gives_pure all

variable (inList : ∀ item list, Q item → list ≠ [] → (∀ e ∈ list, Q e) → Q (.inList item list))

include binary inList in
theorem gives_comparisonTail? (hadditive : Gives A additive Q) (h : Gives A expression Q) {left : Expr}
    (hleft : Q left) : Gives A (comparisonTail? additive expression left) fun o => ∀ e ∈ o, Q e := by
  apply gives_bind (gives_eatKeyword .in_)
  intro found _
  split
  · apply gives_bind (gives_valueList h)
    intro es all
    exact gives_some (inList left es hleft all.1 all.2)
  · apply gives_bind gives_lexemes
    intro ts _
    split
    · next op _ =>
      apply gives_bind (gives_skip 1)
      intro _ _
      apply gives_bind hadditive
      intro right hright
      exact gives_some (binary op left right hleft hright)
    · exact gives_none

include binary inList in
theorem gives_comparison (hadditive : Gives A additive Q) (h : Gives A expression Q) :
    Gives A (comparison additive expression) Q := by
  apply gives_bind hadditive
  intro left hleft
  apply gives_bind (gives_comparisonTail? binary inList hadditive h hleft)
  rintro (_ | e) found
  · exact gives_pure hleft
  · apply gives_bind gives_lexemes
    intro ts _
    dsimp only
    split
    · exact gives_bind (P := fun _ => False) (gives_fail _ nofun) fun _ => False.elim
    · exact gives_pure (found e rfl)

theorem gives_negation {R : Expr → Prop} (unary : ∀ e, R e → Q (.unary .not e))
    (hdeeper : Gives A deeper R) (h : Gives A operand Q) : Gives A (negation deeper operand) Q := by
  apply gives_bind (gives_eatKeyword .not_)
  intro found _
  split
  · apply gives_bind hdeeper
    intro e he
    exact gives_pure (unary e he)
  · exact h

end Levels

end Parser

namespace Grammar

open PipedQuery.Parser

/-- Whether all parsers of the grammar give expressions with the property only. -/
structure Gives (A : Cause → Prop) (g : StageGrammar) (Q : Expr → Prop) : Prop where
  expression : Parser.Gives A g.expression Q
  negation : Parser.Gives A g.negation Q
  additive : Parser.Gives A g.additive Q
  unary : Parser.Gives A g.unary Q

section Levels

variable {Q R : Expr → Prop} {P : Nat → Expr → Prop}

theorem gives_ofUnary {unary deeperNegation : StageParser Expr}
    (binary : ∀ op left right, Q left → Q right → Q (.binary op left right))
    (inList : ∀ item list, Q item → list ≠ [] → (∀ e ∈ list, Q e) → Q (.inList item list))
    (not : ∀ e, R e → Q (.unary .not e)) (hunary : Parser.Gives A unary Q)
    (hdeeper : Parser.Gives A deeperNegation R) : (ofUnary unary deeperNegation).Gives A Q := by
  have additive : Parser.Gives A (ofUnary unary deeperNegation).additive Q :=
    gives_chain binary (gives_chain binary hunary (gives_operator? _)) (gives_operator? _)
  have condition (p : StageParser Expr) (hp : Parser.Gives A p Q) :
      Parser.Gives A (Parser.negation deeperNegation
        (comparison (ofUnary unary deeperNegation).additive p)) Q :=
    gives_negation not hdeeper (gives_comparison binary inList additive hp)
  -- The list of a membership test is read by the parser that is being defined.
  have expression : Parser.Gives A (ofUnary unary deeperNegation).expression Q :=
    gives_fix fun p hp => gives_logical binary (condition p hp)
  exact ⟨expression, condition _ expression, additive, hunary⟩

/-- A call is one of a function.  The word `cast` starts no call, though a function has that name. -/
theorem function_of_keywordForm {k function : Keyword} {family : FunctionFamily}
    {next : Option TokenKind} (form : keywordForm k next = .call function family) :
    function.family? = some family ∧ function ≠ .cast := by
  unfold keywordForm at form
  split at form
  · cases form
  split at form
  · cases form
  split at form
  · cases form
  split at form
  · cases form
  split at form
  · cases form
  split at form
  · cases form
  next notCast =>
    split at form
    · next found =>
      split at form
      · next called =>
        cases form
        refine ⟨found, ?_⟩
        rintro rfl
        rw [Bool.or_eq_true] at called
        rcases called with paren | ranked
        · exact notCast paren
        · cases ranked
      · split at form <;> cases form
    · split at form <;> cases form

theorem function_of_primaryForm {ts : List Lexeme} {k : Keyword} {family : FunctionFamily}
    (form : primaryForm ts = .call k family) : k.family? = some family ∧ k ≠ .cast := by
  unfold primaryForm at form
  split at form
  case h_6 => exact function_of_keywordForm form
  case h_7 => split at form <;> cases form
  all_goals cases form

theorem ne_number_of_keywordForm {k : Keyword} {next : Option TokenKind} :
    keywordForm k next ≠ .number := by
  unfold keywordForm
  repeat' split
  all_goals nofun

theorem isNumber_of_primaryForm {l : Lexeme} {ts : List Lexeme}
    (form : primaryForm (l :: ts) = .number) : l.kind.isNumber = true := by
  unfold primaryForm at form
  split at form
  case h_1 found | h_2 found =>
    have kind : l.kind = _ := Option.some.inj found
    rw [kind]
    rfl
  case h_6 => exact absurd form ne_number_of_keywordForm
  case h_7 => split at form <;> cases form
  all_goals cases form

theorem gives_primary (keeps : Keeps A P) {n : Nat} {deeper : StageGrammar}
    (h : deeper.Gives A (P n)) :
    Parser.Gives A (primary deeper) (P (n + 1)) := by
  apply gives_bind gives_lexemes
  intro ts genuine
  split
  · next form =>
    apply gives_bind (gives_number genuine.1 (isNumber_of_primaryForm form))
    intro v hv
    exact gives_pure (keeps.literal hv.1)
  · apply gives_bind (gives_skip 1)
    intro _ _
    exact gives_pure (keeps.literal trivial)
  · apply gives_bind (gives_skip 1)
    intro _ _
    apply gives_bind h.expression
    intro e he
    apply gives_bind (gives_expectMark .rParen)
    intro _ _
    exact gives_pure (keeps.group he)
  · apply gives_bind (gives_skip 1)
    intro _ _
    exact gives_pure (keeps.literal trivial)
  · apply gives_bind (gives_skip 2)
    intro _ _
    exact gives_pure (keeps.literal trivial)
  · apply (gives_interval h.additive).mono
    rintro e ⟨value, unit, rfl, hvalue, known⟩
    exact keeps.interval hvalue known
  · apply (gives_case h.expression).mono
    rintro e ⟨branches, fallback, rfl, filled, hbranches, hfallback⟩
    exact keeps.case filled hbranches hfallback
  · apply (gives_cast h.expression).mono
    rintro e ⟨value, target, rfl, hvalue⟩
    exact keeps.cast hvalue
  · next form =>
    obtain ⟨known, notCast⟩ := function_of_primaryForm form
    apply (gives_call h.expression known notCast h.additive fun _ => keeps.literal).mono
    rintro e ⟨args, options, rfl, kept⟩
    exact keeps.call kept
  · exact gives_fail _ nofun
  · apply gives_bind gives_fieldName
    intro name _
    exact gives_pure keeps.field
  · exact gives_fail _ nofun

theorem gives_signed (keeps : Keeps A P) {n : Nat} {deeper : StageGrammar}
    (h : deeper.Gives A (P n)) :
    Parser.Gives A (signed deeper) (P (n + 1)) := by
  have sign (op : UnaryOp) :
      Parser.Gives A (do return .unary op (← deeper.unary) : StageParser Expr) (P (n + 1)) := by
    apply gives_bind h.unary
    intro e he
    exact gives_pure (keeps.unary he)
  apply gives_bind (gives_eatMark .minus)
  intro minus _
  split
  · exact sign .negate
  apply gives_bind (gives_eatMark .plus)
  intro plus _
  split
  · exact sign .plus
  · exact gives_primary keeps h

/-- The grammar for `n` levels gives only expressions that may stand where `n` levels are left. -/
theorem gives_level (keeps : Keeps A P) (n : Nat) : (level n).Gives A (P n) := by
  have binary (n : Nat) (op : BinaryOp) (left right : Expr) (hleft : P n left) (hright : P n right) :
      P n (.binary op left right) := keeps.binary hleft hright
  have inList (n : Nat) (item : Expr) (list : List Expr) (hitem : P n item) (filled : list ≠ [])
      (all : ∀ e ∈ list, P n e) : P n (.inList item list) := keeps.inList hitem filled all
  induction n with
  | zero =>
    exact gives_ofUnary (R := fun _ => False) (binary 0) (inList 0) (fun _ => False.elim)
      (gives_fail _ nofun) (gives_fail _ nofun)
  | succ n ih =>
    exact gives_ofUnary (R := P n) (binary (n + 1)) (inList (n + 1)) (fun _ => keeps.unary)
      (gives_signed keeps ih) ih.negation

end Levels

end Grammar

end PipedQuery
