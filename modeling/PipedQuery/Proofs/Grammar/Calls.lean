import PipedQuery.Proofs.Grammar.Constants

/-!
# Reading calls and special forms

What the parsers of calls and of `case`, `cast` and `interval` make of the lexemes of a canonical
text, with what the parser of the expressions inside makes of them.
-/

namespace PipedQuery

/-- Whether the lexemes start as an argument does: neither with what ends or replaces the arguments
    nor with a unit and `from`. -/
structure StartsArgument (ls : List Lexeme) : Prop where
  nonempty : ls ≠ []
  noEnd : firstKind ls ≠ some (.mark .rParen)
  noFields : firstKind ls ≠ some (.mark .lBracket)
  noUnit : Parser.startsExtractUnit ls = false

theorem firstKind_append {ls : List Lexeme} (nonempty : ls ≠ []) (ts : List Lexeme) :
    firstKind (ls ++ ts) = firstKind ls := by
  cases ls with
  | nil => exact absurd rfl nonempty
  | cons l ls => rfl

/-- What starts as an argument goes on doing so before everything but `from`. -/
theorem StartsArgument.append {ls ts : List Lexeme} (starts : StartsArgument ls)
    (noFrom : firstKind ts ≠ some (.keyword .from_)) : StartsArgument (ls ++ ts) := by
  obtain ⟨nonempty, noEnd, noFields, noUnit⟩ := starts
  rw [← firstKind_append nonempty ts] at noEnd noFields
  refine ⟨by simp [nonempty], noEnd, noFields, ?_⟩
  match ls, nonempty with
  | [l], _ => simp [Parser.startsExtractUnit, noFrom]
  | l :: l' :: ls, _ => simpa [Parser.startsExtractUnit] using noUnit

/-- A lexeme that is no unit starts an argument whatever is behind it. -/
theorem startsArgument_cons {l : Lexeme}
    (h : l.kind ≠ .mark .rParen ∧ l.kind ≠ .mark .lBracket ∧
      ∀ k : Keyword, l.kind = .keyword k → k.isIntervalUnit = false) (ls : List Lexeme) :
    StartsArgument (l :: ls) := by
  obtain ⟨noEnd, noFields, noUnit⟩ := h
  refine ⟨by simp, by simpa using noEnd, by simpa using noFields, ?_⟩
  cases kind : l.kind with
  | keyword k => simp [Parser.startsExtractUnit, kind, noUnit k kind]
  | _ => simp [Parser.startsExtractUnit, kind]

theorem startsArgument_keyword {k : Keyword} (notUnit : k.isIntervalUnit = false)
    (ls : List Lexeme) : StartsArgument (k.lexeme :: ls) := by
  refine startsArgument_cons ⟨by simp, by simp, ?_⟩ ls
  rintro _ ⟨⟩
  exact notUnit

/-- A word starts an argument before everything but `from`. -/
theorem startsArgument_word (s : String) {ls : List Lexeme}
    (noFrom : firstKind ls ≠ some (.keyword .from_)) : StartsArgument (.word s :: ls) := by
  have noMark := Scan.word_ne_mark s
  exact ⟨by simp, by simpa using noMark _, by simpa using noMark _,
    by simp [Parser.startsExtractUnit, noFrom]⟩

namespace Keyword

theorem all_relevance : (all.all fun k =>
    k.family? != some .relevance || k.arity? == some (.exactly 2)) = true := by
  decide +kernel

/-- Every relevance function takes a field and a query. -/
theorem arity?_of_relevance {k : Keyword} (function : k.family? = some .relevance) :
    k.arity? = some (.exactly 2) := by
  have found := List.all_eq_true.mp all_relevance k (mem_all k)
  simpa [function] using found

theorem family?_of_isMultiField {k : Keyword} (function : k.isMultiField = true) :
    k.family? = some .relevance := by
  unfold isMultiField at function
  split at function <;> first
    | rfl
    | cases function

end Keyword

theorem DataType.ofKeyword?_keyword (type : DataType) : ofKeyword? type.keyword = some type := by
  cases type <;> rfl

namespace Parser

variable {expression additive : StageParser Expr} {ts rest : List Lexeme} {e : Expr}

section Arguments

variable {args : List Expr} {options : List NamedOption}

/-- Whether the parser reads the expression in front of a comma and of a closing parenthesis. -/
def ReadsArgument (expression : StageParser Expr) (e : Expr) : Prop :=
  ∀ (l : Lexeme) (ts), l.kind = .mark .comma ∨ l.kind = .mark .rParen →
    expression (e.lexemes ++ l :: ts) = ⟨.ok e, l :: ts, []⟩

theorem readsItems_arguments (reads : ∀ e ∈ args, ReadsArgument expression e)
    (ts : List Lexeme) : ReadsItems expression Expr.lexemes args (.mark .rParen :: ts) := by
  refine .of_forall fun e member more ends => ?_
  rcases ends with rfl | comma
  · exact reads e member _ _ (.inr rfl)
  · cases more with
    | nil => simp at comma
    | cons l more => exact reads e member l more (.inl (by simpa using comma))

theorem arguments_nil (ts : List Lexeme) :
    arguments expression (.mark .rParen :: ts) = ⟨.ok [], .mark .rParen :: ts, []⟩ := by
  simp [arguments]

/-- The arguments of a call are read back. -/
theorem arguments_run (starts : ∀ e ∈ args, StartsArgument e.lexemes)
    (reads : ∀ e ∈ args, ReadsArgument expression e) (ts : List Lexeme) :
    arguments expression (commaLexemes (args.map Expr.lexemes) ++ .mark .rParen :: ts) =
      ⟨.ok args, .mark .rParen :: ts, []⟩ := by
  cases args with
  | nil => exact arguments_nil ts
  | cons e args =>
    have start := starts e (by simp)
    have noEnd : firstKind (commaLexemes ((e :: args).map Expr.lexemes) ++ .mark .rParen :: ts) ≠
        some (.mark .rParen) := by
      rw [List.map_cons, commaLexemes_cons, List.append_assoc, firstKind_append start.nonempty]
      exact start.noEnd
    have items := list_run (readsItems_arguments reads ts) (by simp)
    simp only [arguments, bind_run, check_run, noEnd, decide_false, Outcome.bind_ok,
      Bool.false_eq_true, if_false, items, Outcome.after_nil]

/-- Arguments of which the first does not look like a unit are read back as a plain list. -/
theorem extractArguments_run (starts : ∀ e ∈ args, StartsArgument e.lexemes)
    (reads : ∀ e ∈ args, ReadsArgument expression e) (ts : List Lexeme) :
    extractArguments expression (commaLexemes (args.map Expr.lexemes) ++ .mark .rParen :: ts) =
      ⟨.ok args, .mark .rParen :: ts, []⟩ := by
  have plain := arguments_run starts reads ts
  have noUnit : startsExtractUnit
      (commaLexemes (args.map Expr.lexemes) ++ .mark .rParen :: ts) = false := by
    cases args with
    | nil => simp [startsExtractUnit, commaLexemes]
    | cons e args =>
      rw [List.map_cons, commaLexemes_cons, List.append_assoc]
      refine ((starts e (by simp)).append ?_).noUnit
      cases args <;> simp
  rw [← plain]
  generalize commaLexemes (args.map Expr.lexemes) ++ .mark .rParen :: ts = us at noUnit ⊢
  cases us with
  | nil => simp [extractArguments]
  | cons l us => simp [extractArguments, noUnit]

/-- The arguments of `position` are read back, the first by the parser of sums. -/
theorem positionArguments_run (first : ReadsArgument additive e)
    (reads : ∀ e' ∈ args, ReadsArgument expression e') (ts : List Lexeme) :
    positionArguments expression additive
        (commaLexemes ((e :: args).map Expr.lexemes) ++ .mark .rParen :: ts) =
      ⟨.ok (e :: args), .mark .rParen :: ts, []⟩ := by
  generalize whole : args.flatMap (fun e => .mark .comma :: e.lexemes) ++ .mark .rParen :: ts = more
  have found : additive (e.lexemes ++ more) = ⟨.ok e, more, []⟩ := by
    cases args with
    | nil => exact whole ▸ first _ _ (.inr rfl)
    | cons e' args => exact whole ▸ first _ _ (.inl rfl)
  have noIn : firstKind more ≠ some (.keyword .in_) := by
    cases args <;> simp [← whole]
  have others := behindCommas_items (readsItems_arguments reads ts) (by simp) [e]
  rw [whole] at others
  rw [List.map_cons, commaLexemes_cons, List.flatMap_map, List.append_assoc, whole]
  simp only [positionArguments, bind_run, found, Outcome.bind_ok, eatKeyword, eat_of_ne noIn,
    Outcome.after_nil, Bool.false_eq_true, if_false]
  rw [others]
  simp

end Arguments

section Relevance

variable {k : Keyword} {a : RelevanceArguments}

/-- An expression where a required argument of a relevance function stands. -/
theorem relevanceArgument_expression (required : a.args.length < 2) (noOption : a.sawOption = false)
    (noFields : firstKind ts ≠ some (.mark .lBracket))
    (found : expression ts = ⟨.ok e, rest, []⟩) :
    relevanceArgument expression k 2 a ts = ⟨.ok { a with args := e :: a.args }, rest, []⟩ := by
  have few : ¬2 ≤ a.args.length := by omega
  simp [relevanceArgument, few, noOption, noFields, found]

/-- A list of weighted fields where the first argument stands. -/
theorem relevanceArgument_fields (expression : StageParser Expr) (function : k.isMultiField = true)
    (starts : firstKind ts = some (.mark .lBracket))
    (found : weightedFields ts = ⟨.ok e, rest, []⟩) :
    relevanceArgument expression k 2 ⟨[], [], false⟩ ts = ⟨.ok ⟨[e], [], false⟩, rest, []⟩ := by
  simp [relevanceArgument, function, starts, found]

theorem startsAssignment_option {o : NamedOption} (readable : o.IsReadable) (ts : List Lexeme) :
    startsAssignment (o.lexemes ++ ts) = true := by
  obtain ⟨⟨k, -, name⟩, -⟩ := readable
  have word : Lexeme.word o.name = k.lexeme := name ▸ Lexeme.word_lowercase k
  simp [startsAssignment, NamedOption.lexemes, word]

/-- An option behind the required arguments. -/
theorem relevanceArgument_option (expression : StageParser Expr) {o : NamedOption}
    (required : 2 ≤ a.args.length) (readable : o.IsReadable) (ts : List Lexeme) :
    relevanceArgument expression k 2 a (o.lexemes ++ ts) =
      ⟨.ok ⟨a.args, o :: a.options, true⟩, ts, []⟩ := by
  simp [relevanceArgument, required, startsAssignment_option readable, namedOption_lexemes k readable]

/-- Options behind commas are read back. -/
theorem behindCommas_options (expression : StageParser Expr) {options : List NamedOption}
    (required : 2 ≤ a.args.length) (readable : ∀ o ∈ options, o.IsReadable) (ts : List Lexeme) :
    ∃ saw, behindCommas (relevanceArgument expression k 2) a
        (options.flatMap (fun o => .mark .comma :: o.lexemes) ++ .mark .rParen :: ts) =
      ⟨.ok ⟨a.args, options.reverse ++ a.options, saw⟩, .mark .rParen :: ts, []⟩ := by
  induction options generalizing a with
  | nil => exact ⟨a.sawOption, behindCommas_of_ne (by simp)⟩
  | cons o options ih =>
    have here := relevanceArgument_option expression (k := k) required
      (readable o (by simp)) (options.flatMap (fun o => .mark .comma :: o.lexemes) ++
        .mark .rParen :: ts)
    obtain ⟨saw, others⟩ := ih (a := ⟨a.args, o :: a.options, true⟩) required
      fun o' member => readable o' (by simp [member])
    refine ⟨saw, ?_⟩
    rw [List.flatMap_cons, List.append_assoc, List.cons_append,
      behindCommas_comma here (by simp), others]
    simp

/-- Both arguments of a relevance function are read back with its options. -/
theorem relevanceArguments_run {first second : Expr} {options : List NamedOption}
    (arity : k.arity? = some (.exactly 2))
    (noEnd : firstKind first.lexemes ≠ some (.mark .rParen)) (nonempty : first.lexemes ≠ [])
    (head : ∀ ts, relevanceArgument expression k 2 ⟨[], [], false⟩
      (first.lexemes ++ .mark .comma :: ts) = ⟨.ok ⟨[first], [], false⟩, .mark .comma :: ts, []⟩)
    (starts : StartsArgument second.lexemes) (reads : ReadsArgument expression second)
    (readable : ∀ o ∈ options, o.IsReadable) (ts : List Lexeme) :
    relevanceArguments expression k
        (commaLexemes ([first, second].map Expr.lexemes ++ options.map NamedOption.lexemes) ++
          .mark .rParen :: ts) =
      ⟨.ok ([first, second], options), .mark .rParen :: ts, []⟩ := by
  generalize written : options.flatMap (fun o => .mark .comma :: o.lexemes) ++ .mark .rParen :: ts =
    more
  have whole : commaLexemes ([first, second].map Expr.lexemes ++ options.map NamedOption.lexemes) ++
      .mark .rParen :: ts = first.lexemes ++ .mark .comma :: (second.lexemes ++ more) := by
    rw [← written]
    simp [commaLexemes, List.flatMap_map]
  have follow : expression (second.lexemes ++ more) = ⟨.ok second, more, []⟩ := by
    cases options with
    | nil => exact written ▸ reads _ _ (.inr rfl)
    | cons o options => exact written ▸ reads _ _ (.inl rfl)
  have step := relevanceArgument_expression (k := k) (a := ⟨[first], [], false⟩) (by simp) rfl
    (firstKind_append starts.nonempty more ▸ starts.noFields) follow
  obtain ⟨saw, others⟩ := behindCommas_options expression (k := k)
    (a := ⟨[second, first], [], false⟩) (by simp) readable ts
  rw [written] at others
  have noEnd : firstKind (first.lexemes ++ .mark .comma :: (second.lexemes ++ more)) ≠
      some (.mark .rParen) := firstKind_append nonempty _ ▸ noEnd
  have required : (k.arity?.map (·.min)).getD 2 = 2 := by rw [arity]; rfl
  have loop := behindCommas_comma step (by simp)
  rw [whole, relevanceArguments]
  simp only [bind_run, check_run, noEnd, decide_false, Outcome.bind_ok, Bool.false_eq_true, if_false,
    required, separated, head, Outcome.after_nil, loop]
  rw [others]
  simp

end Relevance

section Calls

variable {k : Keyword} {family : FunctionFamily} {args : List Expr} {options : List NamedOption}
  {inner : List Lexeme}

/-- A call with a number of arguments that its function takes. -/
theorem call_run (l : Lexeme) (accepted : k.arity?.all (fun a => a.accepts args.length) = true)
    (found : callArguments expression additive k family ts =
      ⟨.ok (args, options), .mark .rParen :: rest, []⟩) :
    call expression additive k family (l :: ts) =
      ⟨.ok (.call k.lowercase family args options), rest, []⟩ := by
  simp only [call, bind_run, remaining_run, Outcome.bind_ok, skip_run, List.drop_one,
    List.tail_cons, found, expectMark, expect_of_eq rest (Lexeme.mark_kind .rParen),
    Outcome.after_nil]
  cases arity : k.arity? with
  | none => simp
  | some a =>
    have accepted : a.accepts args.length = true := by simpa [arity] using accepted
    simp [accepted]

/-! Behind the parenthesis stand the arguments, as the function takes them. -/

theorem callArguments_ranked (expression additive : StageParser Expr) (family : FunctionFamily)
    (ts : List Lexeme) :
    callArguments expression additive .percentile family (.mark .less :: ts) =
      (rankedArguments expression ts).bind fun args => pure (args, []) := by
  simp [callArguments, eatMark, eat_of_eq ts (Lexeme.mark_kind .less)]

theorem callArguments_plain (expression additive : StageParser Expr) (notExtract : k ≠ .extract)
    (notPosition : k ≠ .position) (notRelevance : family ≠ .relevance) (ts : List Lexeme) :
    callArguments expression additive k family (.mark .lParen :: ts) =
      (arguments expression ts).bind fun args => pure (args, []) := by
  have noRank : firstKind (.mark .lParen :: ts) ≠ some (.mark .less) := by simp
  by_cases percentile : k = .percentile <;>
    simp [callArguments, percentile, eatMark, eat_of_ne noRank, expectMark,
      expect_of_eq ts (Lexeme.mark_kind .lParen), notExtract, notPosition, notRelevance]

theorem callArguments_extract (expression additive : StageParser Expr) (family : FunctionFamily)
    (ts : List Lexeme) :
    callArguments expression additive .extract family (.mark .lParen :: ts) =
      (extractArguments expression ts).bind fun args => pure (args, []) := by
  simp [callArguments, expectMark, expect_of_eq ts (Lexeme.mark_kind .lParen)]

theorem callArguments_position (expression additive : StageParser Expr) (family : FunctionFamily)
    (ts : List Lexeme) :
    callArguments expression additive .position family (.mark .lParen :: ts) =
      (positionArguments expression additive ts).bind fun args => pure (args, []) := by
  simp [callArguments, expectMark, expect_of_eq ts (Lexeme.mark_kind .lParen)]

/-- The arguments of a call that is no `extract`, no `position` and no relevance function. -/
theorem callArguments_of_arguments (notExtract : k ≠ .extract) (notPosition : k ≠ .position)
    (notRelevance : family ≠ .relevance) (found : arguments expression ts = ⟨.ok args, rest, []⟩) :
    callArguments expression additive k family (.mark .lParen :: ts) = ⟨.ok (args, []), rest, []⟩ := by
  rw [callArguments_plain _ _ notExtract notPosition notRelevance, found]
  rfl

theorem callArguments_of_extract (found : extractArguments expression ts = ⟨.ok args, rest, []⟩) :
    callArguments expression additive .extract family (.mark .lParen :: ts) =
      ⟨.ok (args, []), rest, []⟩ := by
  rw [callArguments_extract, found]
  rfl

theorem callArguments_of_position
    (found : positionArguments expression additive ts = ⟨.ok args, rest, []⟩) :
    callArguments expression additive .position family (.mark .lParen :: ts) =
      ⟨.ok (args, []), rest, []⟩ := by
  rw [callArguments_position, found]
  rfl

theorem callArguments_of_relevance (function : k.family? = some .relevance)
    (found : relevanceArguments expression k ts = ⟨.ok (args, options), rest, []⟩) :
    callArguments expression additive k .relevance (.mark .lParen :: ts) =
      ⟨.ok (args, options), rest, []⟩ := by
  have notPercentile : k ≠ .percentile := by
    rintro rfl
    cases function
  have notExtract : k ≠ .extract := by
    rintro rfl
    cases function
  have notPosition : k ≠ .position := by
    rintro rfl
    cases function
  simp [callArguments, notPercentile, notExtract, notPosition, expectMark,
    expect_of_eq ts (Lexeme.mark_kind .lParen), found]

end Calls

section Forms

/-- A stretch of time. -/
theorem interval_run {unit : Keyword} (isUnit : unit.isIntervalUnit = true) (l : Lexeme)
    (found : additive ts = ⟨.ok e, unit.lexeme :: rest, []⟩) :
    interval additive (l :: ts) = ⟨.ok (.interval e unit), rest, []⟩ := by
  simp [interval, found, isUnit]

/-- A conversion. -/
theorem cast_run (l : Lexeme) (target : DataType)
    (found : expression ts =
      ⟨.ok e, Keyword.as_.lexeme :: target.keyword.lexeme :: .mark .rParen :: rest, []⟩) :
    cast expression (l :: .mark .lParen :: ts) = ⟨.ok (.cast e target), rest, []⟩ := by
  simp [cast, expectMark, expectKeyword, expect_of_eq _ (Lexeme.mark_kind _),
    expect_of_eq _ (Keyword.lexeme_kind _), found, typeName, TokenKind.keyword?,
    DataType.ofKeyword?_keyword]

theorem branch_run {value : Expr} {behind : List Lexeme}
    (condition : expression ts = ⟨.ok e, .mark .comma :: behind, []⟩)
    (follow : expression behind = ⟨.ok value, rest, []⟩) :
    branch expression ts = ⟨.ok (e, value), rest, []⟩ := by
  simp [branch, condition, expectMark, expect_of_eq _ (Lexeme.mark_kind _), follow]

/-- A choice without a fallback. -/
theorem case_run (l : Lexeme) {branches : List (Expr × Expr)}
    (found : list (branch expression) ts = ⟨.ok branches, .mark .rParen :: rest, []⟩) :
    case expression (l :: .mark .lParen :: ts) = ⟨.ok (.case branches none), rest, []⟩ := by
  have noElse : startsElse (.mark .rParen :: rest) = false := by simp [startsElse]
  simp [case, expectMark, expect_of_eq _ (Lexeme.mark_kind _), found, noElse]

/-- A choice with a fallback. -/
theorem case_else_run (l word : Lexeme) {branches : List (Expr × Expr)} {behind : List Lexeme}
    (isElse : startsElse (word :: behind) = true)
    (found : list (branch expression) ts = ⟨.ok branches, word :: behind, []⟩)
    (follow : expression behind = ⟨.ok e, .mark .rParen :: rest, []⟩) :
    case expression (l :: .mark .lParen :: ts) = ⟨.ok (.case branches (some e)), rest, []⟩ := by
  simp [case, expectMark, expect_of_eq _ (Lexeme.mark_kind _), found, isElse, follow]

end Forms

end Parser

end PipedQuery
