import PipedQuery.Proofs.Expr.Readable
import PipedQuery.Proofs.Parser.Gives

/-!
# What holds of every expression

A property of expressions that every way to build one keeps, with the number of levels that are left
there, holds of all that the expression grammar gives (`Grammar.gives_level`).  What is known of the
parts depends on the causes that are put up with: where a wrong number of arguments is not, every
call has a right one.
-/

namespace PipedQuery

/-- Whether the expression is a list of weighted fields with at least one. -/
def Expr.IsWeighted (e : Expr) : Prop :=
  ∃ fields, fields ≠ [] ∧ (∀ f ∈ fields, f.IsReadable) ∧ e = .weighted fields

/-- The arguments of a function, all with a property but for weighted fields at their start. -/
structure KeptArgs (P : Expr → Prop) (function : Keyword) (args : List Expr) : Prop where
  head : ∀ e ∈ args.head?, P e ∨ (function.isMultiField = true ∧ e.IsWeighted)
  tail : ∀ e ∈ args.tail, P e

/-- The options of a function, which only relevance functions have. -/
def KeptOptions (family : FunctionFamily) (options : List NamedOption) : Prop :=
  ∀ o ∈ options, family = .relevance ∧ o.IsReadable

/-- What is known of a call.  The form `cast` looks like one but is none. -/
structure KeptCall (A : Cause → Prop) (P : Expr → Prop) (k : Keyword) (family : FunctionFamily)
    (args : List Expr) (options : List NamedOption) : Prop where
  function : k.family? = some family
  notCast : k ≠ .cast
  arity : ∀ arity ∈ k.arity?,
    arity.accepts args.length = true ∨ A (.wrongArity k arity args.length)
  args : KeptArgs P k args
  options : KeptOptions family options

/-- Whether the ways to build an expression keep a property.  Groups, calls, special forms and signs
    are built of expressions with one level less; chains and membership tests are not. -/
structure Grammar.Keeps (A : Cause → Prop) (P : Nat → Expr → Prop) : Prop where
  literal : ∀ {n v}, v.IsUnsigned → P n (.literal v)
  field : ∀ {n name}, P n (.field name)
  group : ∀ {n e}, P n e → P (n + 1) e
  call : ∀ {n k family args options}, KeptCall A (P n) k family args options →
    P (n + 1) (.call k.lowercase family args options)
  binary : ∀ {n op left right}, P n left → P n right → P n (.binary op left right)
  unary : ∀ {n op e}, P n e → P (n + 1) (.unary op e)
  inList : ∀ {n item list}, P n item → list ≠ [] → (∀ e ∈ list, P n e) → P n (.inList item list)
  case : ∀ {n branches fallback}, branches ≠ [] → (∀ b ∈ branches, P n b.1 ∧ P n b.2) →
    (∀ e ∈ fallback, P n e) → P (n + 1) (.case branches fallback)
  cast : ∀ {n e target}, P n e → P (n + 1) (.cast e target)
  interval : ∀ {n e unit}, P n e → unit.isIntervalUnit = true → P (n + 1) (.interval e unit)

theorem keptArgs_of_forall {P : Expr → Prop} {function : Keyword} {args : List Expr}
    (h : ∀ e ∈ args, P e) : KeptArgs P function args :=
  ⟨fun e head => .inl (h e (List.mem_of_mem_head? head)), fun e tail => h e (List.mem_of_mem_tail tail)⟩

theorem keptOptions_nil {family : FunctionFamily} : KeptOptions family [] := nofun

theorem KeptArgs.concat {P : Expr → Prop} {function : Keyword} {args : List Expr} {e : Expr}
    (h : KeptArgs P function args) (last : P e) : KeptArgs P function (args ++ [e]) := by
  cases args with
  | nil => exact keptArgs_of_forall (List.forall_mem_singleton.mpr last)
  | cons a args =>
    refine ⟨h.head, ?_⟩
    intro b member
    rcases List.mem_append.mp member with member | member
    · exact h.tail b member
    · rw [List.mem_singleton.mp member]
      exact last

/-- A number lexeme stands for a constant without a sign. -/
theorem isUnsigned_of_numberLiteral? {l : Lexeme} {v : Literal} {next : Option TokenKind}
    (genuine : l.IsGenuine next) (number : l.kind.isNumber = true)
    (found : numberLiteral? l = some v) : v.IsUnsigned ∧ v.isNumeric = true := by
  unfold numberLiteral? at found
  split at found
  · next small =>
    cases found
    exact ⟨⟨Int.natCast_nonneg _, small.2⟩, rfl⟩
  · next large =>
    obtain ⟨d, read, rfl⟩ := Option.map_eq_some_iff.mp found
    have zero : 0 < Decimal.bound := by decide
    refine ⟨?_, rfl⟩
    unfold Lexeme.IsGenuine at genuine
    unfold TokenKind.isNumber at number
    split at number
    · next kind =>
      rw [kind] at genuine
      obtain ⟨rfl, lt⟩ := Decimal.eq_of_readWhole genuine zero read
      have value : maxInt < digitsValue l.text := by
        by_contra small
        exact large ⟨kind, Nat.le_of_not_lt small⟩
      exact ⟨rfl, lt, Nat.zero_le _, fun _ => value⟩
    · next kind =>
      rw [kind] at genuine
      obtain ⟨whole, c, fraction, text, digits⟩ := genuine
      rw [Decimal.ofDigits?, text] at read
      exact Decimal.isConstant_of_readWhole digits zero (List.cons_ne_nil c fraction) read
    · cases number

theorem isOptionValue_of_isUnsigned {v : Literal} (unsigned : v.IsUnsigned)
    (number : v.isNumeric = true) : v.IsOptionValue := by
  cases v with
  | int n => exact unsigned.2
  | decimal d => exact unsigned.2
  | _ => cases number

theorem isOptionValue_neg {v : Literal} (h : v.IsOptionValue) : v.neg.IsOptionValue := by
  cases v with
  | int n =>
    change (-n).natAbs ≤ maxInt
    rw [Int.natAbs_neg]
    exact h
  | decimal d => exact ⟨h.mantissa_lt, h.scale_le, h.large⟩
  | _ => exact h

namespace Parser

variable {A : Cause → Prop}

theorem gives_number {l : Lexeme} {next : Option TokenKind} (genuine : l.IsGenuine next)
    (isNumber : l.kind.isNumber = true) :
    Gives A (number l) fun v => v.IsUnsigned ∧ v.isNumeric = true := by
  apply gives_bind gives_remaining
  intro place _
  apply gives_bind (gives_skip 1)
  intro _ _
  cases found : numberLiteral? l with
  | none => exact gives_failAt _ _ nofun
  | some v => exact gives_pure (isUnsigned_of_numberLiteral? genuine isNumber found)

theorem gives_plainNumber (what : Expected) :
    Gives A (plainNumber what) fun v => v.IsUnsigned ∧ v.isNumeric = true := by
  apply gives_bind gives_peek
  rintro (_ | l) genuine
  · exact gives_fail _ (Cause.kind_expected_ne _)
  obtain ⟨next, genuine⟩ := genuine l rfl
  dsimp only
  split
  · next isNumber => exact gives_number genuine isNumber
  · exact gives_fail _ (Cause.kind_expected_ne _)

theorem gives_dottedPart? : Gives A dottedPart? fun _ => True := by
  apply gives_bind gives_lexemes
  intro ts _
  cases nextPart? ts with
  | none => exact gives_pure trivial
  | some part => exact gives_bind (gives_skip 2) fun _ _ => gives_pure trivial

theorem gives_qualifiedName (source : Bool) : Gives A (qualifiedName source) fun _ => True := by
  apply gives_bind gives_peek
  intro o _
  cases o.bind (namePart? source) with
  | none => exact gives_fail _ (Cause.kind_expected_ne _)
  | some first =>
    apply gives_bind (gives_skip 1)
    intro _ _
    apply gives_iterate (P := fun _ => True) _ trivial
    intro name _
    apply gives_bind gives_dottedPart?
    rintro (_ | part) _
    · exact gives_none
    · exact gives_some trivial

theorem gives_fieldName : Gives A fieldName fun _ => True := gives_qualifiedName false

theorem gives_unsignedLiteral : Gives A unsignedLiteral Literal.IsOptionValue := by
  apply gives_bind gives_peek
  rintro (_ | l) genuine
  · exact gives_fail _ nofun
  obtain ⟨next, genuine⟩ := genuine l rfl
  have passed {v : Literal} (h : v.IsOptionValue) :
      Gives A (do skip 1; return v : StageParser Literal) Literal.IsOptionValue :=
    gives_bind (gives_skip 1) fun _ _ => gives_pure h
  dsimp only
  split
  case h_1 kind | h_2 kind =>
    split
    · next v found =>
      have isNumber : l.kind.isNumber = true := by rw [kind]; rfl
      have value := isUnsigned_of_numberLiteral? genuine isNumber found
      exact passed (isOptionValue_of_isUnsigned value.1 value.2)
    · exact gives_fail _ nofun
  · exact passed trivial
  · exact passed trivial
  · exact passed trivial
  · exact passed trivial
  · exact gives_fail _ nofun

theorem gives_literal : Gives A literal Literal.IsOptionValue := by
  apply gives_bind gives_lexemes
  intro ts _
  split
  · apply gives_bind (gives_skip 1)
    intro _ _
    exact gives_bind gives_unsignedLiteral fun _ h => gives_pure (isOptionValue_neg h)
  · exact gives_unsignedLiteral

theorem gives_string? : Gives A string? fun _ => True := by
  apply gives_bind gives_peek
  rintro (_ | l) _
  · exact gives_pure trivial
  dsimp only
  split
  · exact gives_bind (gives_skip 1) fun _ _ => gives_pure trivial
  · exact gives_pure trivial

theorem gives_optionValue : Gives A optionValue Literal.IsOptionValue := by
  have name : Gives A (do return .str (← qualifiedName true) : StageParser Literal)
      Literal.IsOptionValue :=
    gives_bind (gives_qualifiedName true) fun _ _ => gives_pure trivial
  apply gives_bind gives_lexemes
  intro ts _
  split
  · exact name
  · split
    · exact gives_literal
    · exact name
  · exact gives_literal

/-- An option that is not dropped has one of the known names and a constant as its value. -/
theorem gives_namedOption (function : Keyword) :
    Gives A (namedOption function) fun o => ∀ option ∈ o, option.IsReadable := by
  apply gives_bind gives_remaining
  intro place _
  apply gives_bind gives_peek
  rintro (_ | name) _
  · exact gives_fail _ nofun
  apply gives_bind (gives_skip 1)
  intro _ _
  apply gives_bind (gives_expectMark .equal)
  intro _ _
  apply gives_bind gives_optionValue
  intro value isValue
  split
  · next k found =>
    exact gives_some ⟨⟨k, (Option.filter_eq_some_iff.mp found).2, rfl⟩, isValue⟩
  · exact gives_bind (gives_raiseAt _ _) fun _ _ => gives_none

theorem gives_weight : Gives A weight Decimal.IsWeight := by
  apply gives_bind gives_literal
  intro v isValue
  cases v with
  | int n => exact gives_pure (.inr ⟨n, isValue, rfl⟩)
  | decimal d => exact gives_pure (.inl isValue)
  | _ => exact gives_fail _ nofun

theorem gives_weightedField : Gives A weightedField WeightedField.IsReadable := by
  apply gives_bind gives_string?
  intro text _
  have rest (field : String) : Gives A (do
      if ← eatMark .caret then
        return ⟨field, some (← weight)⟩
      return ⟨field, none⟩ : StageParser WeightedField) WeightedField.IsReadable := by
    apply gives_bind (gives_eatMark .caret)
    intro caret _
    cases caret
    · exact gives_pure nofun
    · exact gives_bind gives_weight fun _ isWeight => gives_pure (forall_mem_some isWeight)
  cases text with
  | some field => exact gives_bind (P := fun _ => True) (gives_pure trivial) fun field _ => rest field
  | none => exact gives_bind gives_fieldName fun field _ => rest field

theorem gives_weightedFields : Gives A weightedFields Expr.IsWeighted := by
  apply gives_bind (gives_expectMark .lBracket)
  intro _ _
  apply gives_bind (gives_list gives_weightedField)
  intro fields all
  apply gives_bind (gives_expectMark .rBracket)
  intro _ _
  exact gives_pure ⟨fields, all.1, all.2, rfl⟩

section Arguments

variable {P : Expr → Prop} {expression additive : StageParser Expr} {function : Keyword}
  (h : Gives A expression P)

/-- What has been read of the arguments of a relevance function. -/
structure RelevanceArguments.Kept (P : Expr → Prop) (function : Keyword) (a : RelevanceArguments) :
    Prop where
  args : KeptArgs P function a.args.reverse
  options : ∀ o ∈ a.options, o.IsReadable

include h in
theorem gives_relevanceArgument (required : Nat) {a : RelevanceArguments} (kept : a.Kept P function) :
    Gives A (relevanceArgument expression function required a) (·.Kept P function) := by
  have positional : Gives A (do return { a with args := (← expression) :: a.args })
      (RelevanceArguments.Kept P function) := by
    apply gives_bind h
    intro e he
    apply gives_pure
    refine ⟨?_, kept.options⟩
    rw [List.reverse_cons]
    exact kept.args.concat he
  apply gives_bind gives_lexemes
  intro ts _
  split
  · apply gives_bind (gives_namedOption function)
    intro option known
    apply gives_pure
    refine ⟨kept.args, ?_⟩
    intro o member
    rcases List.mem_append.mp member with member | member
    · exact known o (Option.mem_toList.mp member)
    · exact kept.options o member
  · dsimp only
    split
    · exact gives_bind (P := fun _ => False) (gives_fail _ nofun) fun _ => False.elim
    apply gives_bind (gives_check _)
    intro bracket _
    split
    · next first =>
      apply gives_bind gives_weightedFields
      intro fields weighted
      apply gives_pure
      rw [Bool.and_eq_true, Bool.and_eq_true] at first
      refine ⟨⟨?_, nofun⟩, kept.options⟩
      rintro e ⟨⟩
      exact .inr ⟨first.1.2, weighted⟩
    · exact positional

include h in
theorem gives_relevanceArguments :
    Gives A (relevanceArguments expression function) fun r => KeptArgs P function r.1 ∧
      ∀ o ∈ r.2, o.IsReadable := by
  apply gives_bind (gives_check _)
  intro empty _
  split
  · exact gives_pure ⟨keptArgs_of_forall nofun, nofun⟩
  have start : RelevanceArguments.Kept P function ⟨[], [], false⟩ :=
    ⟨keptArgs_of_forall nofun, nofun⟩
  apply gives_bind (gives_separated (gives_relevanceArgument h _ start)
    fun a kept => gives_relevanceArgument h _ kept)
  intro a kept
  apply gives_pure
  exact ⟨kept.args, fun o member => kept.options o (List.mem_reverse.mp member)⟩

include h in
theorem gives_arguments : Gives A (arguments expression) fun args => ∀ e ∈ args, P e := by
  apply gives_bind (gives_check _)
  intro empty _
  split
  · exact gives_pure nofun
  · exact (gives_list h).mono fun args all => all.2

include h in
theorem gives_positionArguments (hadditive : Gives A additive P) :
    Gives A (positionArguments expression additive) fun args => ∀ e ∈ args, P e := by
  apply gives_bind hadditive
  intro needle hneedle
  apply gives_bind (gives_eatKeyword .in_)
  intro found _
  split
  · apply gives_bind h
    intro text htext
    exact gives_pure (List.forall_mem_cons.mpr ⟨hneedle, List.forall_mem_singleton.mpr htext⟩)
  have step (args : List Expr) (all : ∀ e ∈ args, P e) :
      Gives A (do return (← expression) :: args) fun args => ∀ e ∈ args, P e := by
    apply gives_bind h
    intro e he
    exact gives_pure (List.forall_mem_cons.mpr ⟨he, all⟩)
  apply gives_bind (gives_behindCommas step (List.forall_mem_singleton.mpr hneedle))
  intro args all
  exact gives_pure fun e member => all e (List.mem_reverse.mp member)

include h in
theorem gives_extractArguments (literal : ∀ s, P (.literal (.str s))) :
    Gives A (extractArguments expression) fun args => ∀ e ∈ args, P e := by
  apply gives_bind gives_lexemes
  rintro (_ | ⟨unit, more⟩) _
  · exact gives_arguments h
  dsimp only
  split
  · apply gives_bind (gives_skip 1)
    intro _ _
    apply gives_bind (gives_expectKeyword .from_)
    intro _ _
    apply gives_bind h
    intro e he
    exact gives_pure (List.forall_mem_cons.mpr ⟨literal _, List.forall_mem_singleton.mpr he⟩)
  · exact gives_arguments h

include h in
theorem gives_rankedArguments (literal : ∀ v : Literal, v.IsUnsigned → P (.literal v)) :
    Gives A (rankedArguments expression) fun args => ∀ e ∈ args, P e := by
  apply gives_bind (gives_plainNumber .percentileRank)
  intro rank hrank
  apply gives_bind (gives_expectMark .greater)
  intro _ _
  apply gives_bind (gives_expectMark .lParen)
  intro _ _
  apply gives_bind h
  intro e he
  exact gives_pure
    (List.forall_mem_cons.mpr ⟨he, List.forall_mem_singleton.mpr (literal rank hrank.1)⟩)

include h in
/-- Whatever the way to write the arguments of a function, they are expressions, but for weighted
    fields at the start, and only relevance functions have options. -/
theorem gives_callArguments (hadditive : Gives A additive P)
    (literal : ∀ v : Literal, v.IsUnsigned → P (.literal v)) (family : FunctionFamily) :
    Gives A (callArguments expression additive function family) fun r =>
      KeptArgs P function r.1 ∧ KeptOptions family r.2 := by
  have plain {args : StageParser (List Expr)} (given : Gives A args fun args => ∀ e ∈ args, P e) :
      Gives A (do return (← args, []) : StageParser (List Expr × List NamedOption)) fun r =>
        KeptArgs P function r.1 ∧ KeptOptions family r.2 := by
    apply gives_bind given
    intro args all
    exact gives_pure ⟨keptArgs_of_forall all, keptOptions_nil⟩
  have listed : Gives A (do
      expectMark .lParen
      if function = .extract then
        return (← extractArguments expression, [])
      else if function = .position then
        return (← positionArguments expression additive, [])
      else if family = .relevance then
        relevanceArguments expression function
      else
        return (← arguments expression, [])) fun r =>
        KeptArgs P function r.1 ∧ KeptOptions family r.2 := by
    apply gives_bind (gives_expectMark .lParen)
    intro _ _
    split
    · exact plain (gives_extractArguments h fun s => literal _ trivial)
    split
    · exact plain (gives_positionArguments h hadditive)
    split
    · next relevance =>
      exact (gives_relevanceArguments h).mono fun r kept =>
        ⟨kept.1, fun o member => ⟨relevance, kept.2 o member⟩⟩
    · exact plain (gives_arguments h)
  unfold callArguments
  dsimp only
  by_cases percentile : function = .percentile
  · rw [if_pos percentile]
    apply gives_bind (gives_eatMark .less)
    intro ranked _
    cases ranked
    · exact listed
    · exact plain (gives_rankedArguments h literal)
  · rw [if_neg percentile]
    exact listed

include h in
theorem gives_call {family : FunctionFamily} (known : function.family? = some family)
    (notCast : function ≠ .cast) (hadditive : Gives A additive P)
    (literal : ∀ v : Literal, v.IsUnsigned → P (.literal v)) :
    Gives A (call expression additive function family) fun e => ∃ args options,
      e = .call function.lowercase family args options ∧
        KeptCall A P function family args options := by
  apply gives_bind gives_remaining
  intro place _
  apply gives_bind (gives_skip 1)
  intro _ _
  apply gives_bind (gives_callArguments h hadditive literal family)
  rintro ⟨args, options⟩ kept
  apply gives_bind (gives_expectMark .rParen)
  intro _ _
  have built (right : ∀ arity ∈ function.arity?,
      arity.accepts args.length = true ∨ A (.wrongArity function arity args.length)) :
      Gives A (pure (.call function.lowercase family args options) : StageParser Expr) fun e =>
        ∃ args options, e = .call function.lowercase family args options ∧
          KeptCall A P function family args options :=
    gives_pure ⟨args, options, rfl, known, notCast, right, kept.1, kept.2⟩
  dsimp only
  split
  · next arity found =>
    split
    · next accepted =>
      refine built fun arity' found' => .inl ?_
      rw [found] at found'
      cases found'
      exact accepted
    · apply gives_bind (gives_raiseAt _ _)
      intro _ raised
      refine built fun arity' found' => .inr ?_
      rw [found] at found'
      cases found'
      exact raised
  · next none =>
    refine built fun arity found => ?_
    rw [none] at found
    cases found

end Arguments

end Parser

end PipedQuery
