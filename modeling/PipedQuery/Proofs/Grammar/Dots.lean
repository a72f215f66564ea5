import PipedQuery.Proofs.Grammar.Seam

/-!
# No expression ends in a dot

A dot is read only together with the part of a name behind it.  So lexemes that an expression takes up
as a whole do not end in one (`Grammar.dotless_level`).
-/

namespace PipedQuery

theorem not_endsInDot_cons {l : Lexeme} {ts : List Lexeme} (other : l.kind ≠ .mark .dot)
    (h : ¬EndsInDot ts) : ¬EndsInDot (l :: ts) := by
  cases ts with
  | nil =>
    rintro ⟨d, ⟨⟩, dot⟩
    exact other dot
  | cons m ts => rwa [← List.singleton_append, endsInDot_append (List.cons_ne_nil m ts)]

namespace Parser

variable {α β : Type} {p : StageParser α} {f : α → StageParser β} {l : Lexeme} {ts : List Lexeme}

/-- Whether the lexemes do not end in a dot if the parser takes them all up. -/
def DotlessAt (p : StageParser α) (ts : List Lexeme) : Prop :=
  ∀ a raised, p ts = ⟨.ok a, [], raised⟩ → ¬EndsInDot ts

/-- Whether nothing that the parser takes up as a whole ends in a dot. -/
class Dotless (p : StageParser α) : Prop where
  advances : Advances p := by infer_instance
  at_ : ∀ ts, DotlessAt p ts

theorem dotlessAt_nil (p : StageParser α) : DotlessAt p [] := fun _ _ _ => not_endsInDot_nil

theorem dotlessAt_of_error (stops : ∀ a, (p ts).result ≠ .ok a) : DotlessAt p ts :=
  fun a _ found => absurd (congrArg Outcome.result found) (stops a)

/-- What does not read the last lexeme does not read a dot there. -/
theorem Dotless.of_cases [Advances p] (some : ∀ l ts, DotlessAt p (l :: ts)) : Dotless p where
  at_ ts := by
    cases ts with
    | nil => exact dotlessAt_nil p
    | cons l ts => exact some l ts

theorem dotlessAt_lexemes {f : List Lexeme → StageParser β}
    (behind : DotlessAt (f (l :: ts)) (l :: ts)) :
    DotlessAt (lexemes >>= f) (l :: ts) :=
  behind

theorem Dotless.of_lexemes {f : List Lexeme → StageParser β} (forward : ∀ ts, Advances (f ts))
    (some : ∀ l ts, DotlessAt (f (l :: ts)) (l :: ts)) : Dotless (lexemes >>= f) :=
  .of_cases some

theorem dotless_of_run [Advances p] (run : ∀ ts, (p ts).rest = ts) : Dotless p where
  at_ ts a raised found := by
    have none := run ts
    rw [found] at none
    exact none ▸ not_endsInDot_nil

instance (a : α) : Dotless (pure a) := dotless_of_run fun _ => rfl
instance (cause : Cause) : Dotless (fail cause : StageParser α) := dotless_of_run fun _ => rfl
instance (place : Nat) (cause : Cause) : Dotless (raiseAt place cause) :=
  dotless_of_run fun _ => rfl
instance : Dotless lexemes := dotless_of_run fun _ => rfl

/-! Parsers made of parsers. -/

/-- Of two parsers one after the other the second one takes up the last lexeme, or the first one does
    and the second one takes up nothing. -/
theorem DotlessAt.bind_of [Advances p] (others : ∀ a, Dotless (f a))
    (first : DotlessAt p ts ∨ ∀ a, Consumes (f a)) : DotlessAt (p >>= f) ts := by
  intro b raised found dot
  rw [bind_run] at found
  generalize here : p ts = o at found
  obtain ⟨issue | a, between, before⟩ := o
  · cases found
  rw [Outcome.bind_ok] at found
  generalize next : f a between = o at found
  obtain ⟨result, behind, after⟩ := o
  cases found
  have plain := (others a).at_ between b after next
  cases between with
  | nil =>
    rcases first with first | consumes
    · exact first a before here dot
    · exact absurd ((consumes a).lt_of_run next) (Nat.not_lt_zero _)
  | cons m between =>
    obtain ⟨taken, rfl⟩ := suffix_of_run here
    exact plain ((endsInDot_append (List.cons_ne_nil m between)).mp dot)

theorem DotlessAt.bind [Advances p] (first : DotlessAt p ts) (others : ∀ a, Dotless (f a)) :
    DotlessAt (p >>= f) ts :=
  .bind_of others (.inl first)

theorem Dotless.bind [first : Dotless p] (others : ∀ a, Dotless (f a)) : Dotless (p >>= f) :=
  have := first.advances
  { advances := .bind fun a => (others a).advances
    at_ ts := (first.at_ ts).bind others }

/-- Where something is read behind a parser, it does not matter what that reads. -/
theorem Dotless.behind [Advances p] (consumes : ∀ a, Consumes (f a)) (others : ∀ a, Dotless (f a)) :
    Dotless (p >>= f) where
  advances := .bind fun a => (others a).advances
  at_ _ := .bind_of others (.inr consumes)

instance [Dotless p] [others : ∀ a, Dotless (f a)] : Dotless (p >>= f) := .bind others

instance (c : Prop) [Decidable c] {q : StageParser α} [Dotless p] [Dotless q] :
    Dotless (if c then p else q) := by
  split <;> assumption

theorem dotlessAt_skip {f : Unit → StageParser β} (other : l.kind ≠ .mark .dot)
    [next : Dotless (f ())] :
    DotlessAt (skip 1 >>= f) (l :: ts) := fun b raised found =>
  not_endsInDot_cons other (next.at_ ts b raised found)

instance {step : α → StageParser (Option α)} [steps : ∀ a, Dotless (step a)] (a : α) :
    Dotless (iterate step a) where
  advances :=
    have (a : α) := (steps a).advances
    inferInstance
  at_ ts b raised found := by
    have (a : α) := (steps a).advances
    have here := (steps a).at_ ts
    fun_induction iterate step a ts generalizing raised with
    | case1 => cases found
    | case2 a ts rest raised' given | case4 a ts a' rest raised' given =>
      cases found
      exact here _ _ given
    | case3 a ts a' between before given shorter ih =>
      generalize next : iterate step a' between = o at found ih
      obtain ⟨result, behind, after⟩ := o
      cases found
      have plain := ih after rfl ((steps a').at_ between)
      cases between with
      | nil => exact here _ _ given
      | cons m between =>
        obtain ⟨taken, rfl⟩ := suffix_of_run given
        rwa [endsInDot_append (List.cons_ne_nil m between)]

/-! Single lexemes and names. -/

theorem dotless_eat {kind : TokenKind} (other : kind ≠ .mark .dot) : Dotless (eat kind) := by
  refine .of_cases fun l ts a raised found => ?_
  rw [eat_run] at found
  split at found
  · next here =>
    have same : l.kind = kind := by simpa using here
    obtain rfl : ts = [] := congrArg Outcome.rest found
    exact not_endsInDot_cons (same ▸ other) not_endsInDot_nil
  · cases congrArg Outcome.rest found

instance (k : Keyword) : Dotless (eatKeyword k) := dotless_eat nofun
instance : Dotless (eatMark .minus) := dotless_eat nofun
instance : Dotless (eatMark .plus) := dotless_eat nofun

instance : Dotless (expectMark .rParen) := by
  have : Dotless (eat (.mark .rParen)) := dotless_eat nofun
  unfold expectMark expect
  infer_instance

theorem ne_dot_of_namePart? {anyKeyword : Bool} {name : String}
    (part : namePart? anyKeyword l = some name) : l.kind ≠ .mark .dot := by
  intro dot
  rw [namePart?, dot] at part
  cases part

instance : Dotless dottedPart? where
  advances := strides_dottedPart?.advances
  at_ ts part raised found := by
    cases next : nextPart? ts with
    | none =>
      rw [dottedPart?_of_none next] at found
      rw [show ts = [] from congrArg Outcome.rest found]
      exact not_endsInDot_nil
    | some name =>
      rw [dottedPart?_of_some next] at found
      obtain ⟨dot, l, rest, rfl, -, named⟩ := exists_of_nextPart? next
      obtain rfl : rest = [] := congrArg Outcome.rest found
      have plain : ¬EndsInDot [l] :=
        not_endsInDot_cons (ne_dot_of_namePart? named) not_endsInDot_nil
      rwa [← List.singleton_append, endsInDot_append (List.cons_ne_nil l [])]

instance (source : Bool) : Dotless (qualifiedName source) := by
  have steps (name : String) : Dotless (nameStep name) := by
    refine .bind fun part => ?_
    cases part <;> infer_instance
  refine .of_cases fun l ts => ?_
  change DotlessAt (match namePart? source l with
    | none => _
    | some first => skip 1 >>= fun _ => iterate nameStep first) (l :: ts)
  cases named : namePart? source l with
  | none => exact dotlessAt_of_error nofun
  | some first =>
    have : Dotless (iterate nameStep first) := inferInstance
    exact dotlessAt_skip (ne_dot_of_namePart? named)

instance : Dotless fieldName := inferInstanceAs (Dotless (qualifiedName false))

theorem dotlessAt_number (other : l.kind ≠ .mark .dot) : DotlessAt (number l) (l :: ts) := by
  intro v raised found
  cases literal : numberLiteral? l with
  | none => simp [number, literal] at found
  | some w =>
    obtain rfl : ts = [] := by simpa [number, literal] using congrArg Outcome.rest found
    exact not_endsInDot_cons other not_endsInDot_nil

/-! Forms that end in a lexeme of their own. -/

/-- Whether the parser reads something, and nothing that it takes up as a whole ends in a dot.  Then it
    does not matter what stands before it. -/
structure Closing (p : StageParser α) : Prop where
  consumes : Consumes p
  dotless : Dotless p

theorem Closing.after [Advances p] (others : ∀ a, Closing (f a)) : Closing (p >>= f) :=
  ⟨.after fun a => (others a).consumes,
    .behind (fun a => (others a).consumes) fun a => (others a).dotless⟩

theorem closing_paren {g : Unit → StageParser β} [next : Dotless (g ())] :
    Closing (expectMark .rParen >>= g) :=
  ⟨(consumes_expect _).bind fun _ => next.advances, .bind fun _ => next⟩

section Forms

variable (expression additive : StageParser Expr) [Advances expression] [Advances additive]

theorem closing_call (function : Keyword) (family : FunctionFamily) :
    Closing (call expression additive function family) := by
  refine .after fun place => .after fun _ => .after fun r => ?_
  obtain ⟨args, options⟩ := r
  refine @closing_paren _ _ ?_
  split <;> infer_instance

theorem closing_interval : Closing (interval additive) := by
  refine .after fun _ => .after fun value => ⟨consumes_intervalUnit value, ?_⟩
  refine .of_lexemes (fun ts => by split <;> infer_instance) fun l ts => ?_
  dsimp only [firstKind_cons]
  split
  · next unit kind =>
    split
    · exact dotlessAt_skip (by simp [Option.some.inj kind])
    · exact dotlessAt_of_error nofun
  · exact dotlessAt_of_error nofun

theorem closing_case : Closing (case expression) := by
  have closes (branches : List (Expr × Expr)) (fallback : Option Expr) :
      Closing (do expectMark .rParen; return .case branches fallback : StageParser Expr) :=
    closing_paren
  refine .after fun _ => .after fun _ => .after fun branches => .after fun ts => ?_
  dsimp only
  split
  · exact .after fun _ => .after fun e => .after fun _ => closes branches _
  · exact .after fun _ => closes branches _

theorem closing_cast : Closing (cast expression) :=
  .after fun _ => .after fun _ => .after fun _ => .after fun _ => .after fun _ => closing_paren

theorem closing_valueList : Closing (valueList expression) :=
  .after fun _ => .after fun _ => closing_paren

end Forms

/-! Levels of expressions. -/

section Levels

variable {operand additive deeper : StageParser Expr} (expression : StageParser Expr)
  {op? : StageParser (Option BinaryOp)} [Dotless additive] [Dotless deeper] [Advances expression]

theorem dotless_operator? {op? : TokenKind → Option BinaryOp} (dot : op? (.mark .dot) = none) :
    Dotless (operator? op?) := by
  refine .of_lexemes (fun ts => by split <;> infer_instance) fun l ts => ?_
  dsimp only [firstKind_cons, Option.bind_some]
  cases found : op? l.kind with
  | none => exact Dotless.at_ _
  | some op =>
    refine dotlessAt_skip fun kind => ?_
    rw [kind, dot] at found
    cases found

instance (k : Keyword) (op : BinaryOp) : Dotless (keywordOperator? k op) := by
  unfold keywordOperator?
  infer_instance

instance : Dotless andOperator? := by
  unfold andOperator?
  infer_instance

theorem Dotless.chain (_ : Dotless operand) [Dotless op?] : Dotless (chain operand op?) := by
  have steps (left : Expr) : Dotless (chainStep operand op? left) := by
    refine .bind fun op => ?_
    cases op <;> infer_instance
  have loop (first : Expr) : Dotless (iterate (chainStep operand op?) first) := inferInstance
  exact .bind loop

theorem Dotless.logical (h : Dotless operand) : Dotless (logical operand) :=
  .chain (.chain (.chain h))

instance (left : Expr) : Dotless (comparisonTail? additive expression left) := by
  have := (closing_valueList expression).dotless
  have := (inferInstance : Dotless additive).advances
  refine .bind fun found => ?_
  split
  · infer_instance
  · refine .of_lexemes (fun ts => by split <;> infer_instance) fun l ts => ?_
    cases found : comparison? (l :: ts) with
    | none => exact Dotless.at_ _
    | some op =>
      refine dotlessAt_skip fun dot => ?_
      simp [comparison?, dot] at found

instance : Dotless (comparison additive expression) := by
  refine .bind fun left => .bind fun tail => ?_
  cases tail <;> infer_instance

instance [Dotless operand] : Dotless (negation deeper operand) := by
  unfold negation
  infer_instance

end Levels

end Parser

namespace Grammar

open PipedQuery.Parser

/-- Whether nothing that a parser of the grammar takes up as a whole ends in a dot. -/
structure Dotless (g : StageGrammar) : Prop where
  expression : Parser.Dotless g.expression
  negation : Parser.Dotless g.negation
  additive : Parser.Dotless g.additive
  unary : Parser.Dotless g.unary

theorem dotless_ofUnary {unary deeperNegation : StageParser Expr} (consumes : Parser.Consumes unary)
    (consumes' : Parser.Consumes deeperNegation) (hunary : Parser.Dotless unary)
    (hdeeper : Parser.Dotless deeperNegation) : (ofUnary unary deeperNegation).Dotless := by
  have := (consumes_ofUnary consumes consumes').expression.advances
  have : Parser.Dotless (operator? multiplicativeOp?) := dotless_operator? rfl
  have : Parser.Dotless (operator? additiveOp?) := dotless_operator? rfl
  have additive : Parser.Dotless (ofUnary unary deeperNegation).additive := hunary.chain.chain
  have negation : Parser.Dotless (Parser.negation deeperNegation
      (comparison (ofUnary unary deeperNegation).additive
        (ofUnary unary deeperNegation).expression)) := inferInstance
  refine ⟨?_, negation, additive, hunary⟩
  rw [expression_ofUnary consumes consumes']
  exact negation.logical

theorem dotless_primary {deeper : StageGrammar} (consumes : deeper.Consumes) :
    Parser.Dotless (primary deeper) := by
  have := consumes.expression.advances
  have := consumes.additive.advances
  have := (consumes_primary consumes).advances
  refine .of_cases fun l ts => dotlessAt_lexemes ?_
  have kind (form : primaryForm (l :: ts) ≠ .none) : l.kind ≠ .mark .dot := fun dot =>
    form (by simp [primaryForm, dot])
  cases form : primaryForm (l :: ts) with
  | number => exact (dotlessAt_number (kind (by simp [form]))).bind fun v => inferInstance
  | string => exact dotlessAt_skip (kind (by simp [form]))
  | group =>
    have closing : Closing (skip 1 >>= fun _ => do
        let e ← deeper.expression
        expectMark .rParen
        return e) := .after fun _ => .after fun _ => closing_paren
    exact closing.dotless.at_ _
  | boolean value => exact dotlessAt_skip (kind (by simp [form]))
  | date k =>
    cases ts with
    | nil => cases isString_of_primaryForm form
    | cons m ts =>
      have string := isString_of_primaryForm form
      have other : m.kind ≠ .mark .dot := by
        intro dot
        simp [dot, TokenKind.isString] at string
      intro v raised found
      obtain rfl : ts = [] := congrArg Outcome.rest found
      exact not_endsInDot_cons (kind (by simp [form])) (not_endsInDot_cons other not_endsInDot_nil)
  | interval => exact (closing_interval _).dotless.at_ _
  | case => exact (closing_case _).dotless.at_ _
  | cast => exact (closing_cast _).dotless.at_ _
  | call function family => exact (closing_call _ _ function family).dotless.at_ _
  | unknownCall | none => exact Dotless.at_ _
  | field =>
    have : Parser.Dotless (do return .field (← fieldName) : StageParser Expr) := inferInstance
    exact this.at_ _

theorem dotless_signed {deeper : StageGrammar} (consumes : deeper.Consumes) (h : deeper.Dotless) :
    Parser.Dotless (signed deeper) := by
  have := h.unary
  have := dotless_primary consumes
  unfold signed
  infer_instance

/-- However many levels are left, no expression ends in a dot. -/
theorem dotless_level (n : Nat) : (level n).Dotless := by
  induction n with
  | zero => exact dotless_ofUnary (consumesIf_fail _) (consumesIf_fail _) inferInstance inferInstance
  | succ n ih =>
    have consumes := consumes_level n
    exact dotless_ofUnary (consumes_signed consumes) consumes.negation (dotless_signed consumes ih)
      ih.negation

/-- An expression that is all there is goes before every seam that is not `in`. -/
theorem expression_of_seam {n : Nat} {ls : List Lexeme} {e : Expr}
    (whole : (level n).expression ls = ⟨.ok e, [], []⟩) (us : List Lexeme) [IsSeam us]
    [Passes false us (.keyword .in_)] : (level n).expression (ls ++ us) = ⟨.ok e, us, []⟩ := by
  have transfers : Parser.Transfers false [] us (level n).expression (level n).expression :=
    (transfers_level n).expression false
  exact transfers.run ((dotless_level n).expression.at_ ls e [] whole) (by rwa [List.append_nil])

end Grammar

end PipedQuery
