import PipedQuery.Proofs.Grammar.Aggregates

/-!
# Reading extracting and learning stages back

The commands `parse`, `grok` and `patterns`, and those that run a learning algorithm, are read back
from the lexemes of their canonical texts.  A pattern that cannot be checked, or that makes no
fields, gives its warning each time.
-/

namespace PipedQuery

variable {α β : Type} {rest ts us : List Lexeme}

namespace Parser

/-- Whether the parser gives a value and a rest, with warnings at most. -/
def Passes (p : StageParser α) (ts : List Lexeme) (a : α) (rest : List Lexeme) : Prop :=
  ∃ raised, p ts = ⟨.ok a, rest, raised⟩ ∧ ∀ issue ∈ raised, issue.cause.IsWarning

theorem Passes.of_clean {p : StageParser α} {a : α} (h : p ts = ⟨.ok a, rest, []⟩) :
    Passes p ts a rest :=
  ⟨[], h, List.forall_mem_nil _⟩

theorem Passes.bind {p : StageParser α} {f : α → StageParser β} {a : α} {b : β} (h : Passes p ts a us)
    (h' : Passes (f a) us b rest) : Passes (p >>= f) ts b rest := by
  obtain ⟨raised, first, warnings⟩ := h
  obtain ⟨raised', second, warnings'⟩ := h'
  refine ⟨raised ++ raised', ?_, ?_⟩
  · rw [bind_run, first, Outcome.bind_ok, second, Outcome.after_mk]
  · intro issue member
    exact (List.mem_append.mp member).elim (warnings issue) (warnings' issue)

theorem passes_raiseAt {cause : Cause} (warning : cause.IsWarning) (place : Nat)
    (ts : List Lexeme) : Passes (raiseAt place cause) ts () ts :=
  ⟨_, rfl, List.forall_mem_singleton.mpr warning⟩

theorem Passes.iterate_none {step : α → StageParser (Option α)} {a : α}
    (h : Passes (step a) ts none rest) : Passes (iterate step a) ts a rest := by
  obtain ⟨raised, found, warnings⟩ := h
  exact ⟨raised, iterate_of_none found, warnings⟩

theorem Passes.iterate_some {step : α → StageParser (Option α)} {a a' b : α}
    (h : Passes (step a) ts (some a') us) (shorter : us.length < ts.length)
    (h' : Passes (iterate step a') us b rest) : Passes (iterate step a) ts b rest := by
  obtain ⟨raised, first, warnings⟩ := h
  obtain ⟨raised', second, warnings'⟩ := h'
  refine ⟨raised ++ raised', ?_, ?_⟩
  · rw [iterate_of_some first shorter, second, Outcome.after_mk]
  · intro issue member
    exact (List.mem_append.mp member).elim (warnings issue) (warnings' issue)

theorem passes_raise_if {p : StageParser α} {a : α} {cause : Cause} (c : Bool) (place : Nat)
    (warning : cause.IsWarning) (h : Passes p ts a rest) :
    Passes (do
      if c then
        raiseAt place cause
      p) ts a rest := by
  cases c with
  | false => exact h
  | true => exact (passes_raiseAt warning place ts).bind h

theorem pattern_run (s : String) (ts : List Lexeme) :
    pattern (.string s :: ts) = ⟨.ok s, ts, []⟩ := by
  simp [pattern, string?_string]

theorem passes_parse (source text : String) :
    Passes parse (Keyword.parse.lexeme :: (nameLexemes source ++ [.string text]))
      (.extract ⟨.regex, source, some text, Pattern.parsedFields text⟩) [] := by
  apply Passes.bind (.of_clean rfl)
  apply Passes.bind (.of_clean (fieldName_run source [.string text] (by simp)))
  apply Passes.bind (.of_clean rfl)
  apply Passes.bind (.of_clean (pattern_run text []))
  have named (newFields : List String) :
      Passes (do
        if newFields.isEmpty then
          raiseAt 1 .noNamedGroup
        return .extract ⟨.regex, source, some text, newFields⟩ : StageParser Command) []
        (.extract ⟨.regex, source, some text, newFields⟩) [] :=
    passes_raise_if _ _ (fun _ => rfl) (.of_clean rfl)
  unfold Pattern.parsedFields
  dsimp only
  cases Pattern.groupNames? text with
  | ok names => exact named names
  | error flaw => exact (passes_raiseAt (fun _ => rfl) 1 []).bind (named _)

theorem passes_grok (source text : String) :
    Passes grok (Keyword.grok.lexeme :: (nameLexemes source ++ [.string text]))
      (.extract ⟨.grok, source, some text, Pattern.grokFields text⟩) [] := by
  apply Passes.bind (.of_clean rfl)
  apply Passes.bind (.of_clean (fieldName_run source [.string text] (by simp)))
  apply Passes.bind (.of_clean rfl)
  apply Passes.bind (.of_clean (pattern_run text []))
  exact passes_raise_if _ _ (fun _ => rfl) (.of_clean rfl)

theorem startsAssignment_name (name : String) (ends : firstKind rest ≠ some (.mark .equal)) :
    startsAssignment (nameLexemes name ++ rest) = false := by
  have fields := startsAssignment_fields (List.cons_ne_nil name []) ends
  simpa [fieldLexemes, commaLexemes] using fields

section Patterns

variable (o : PatternsOptions)

theorem patternsOption?_newField (field : String) (ts : List Lexeme) :
    patternsOption? o (optionLexemes .newField (.str field) ++ ts) =
      ⟨.ok (some { o with newField := some field }), ts, []⟩ := by
  have value : string ((Literal.str field).lexemes ++ ts) = ⟨.ok field, ts, []⟩ :=
    string_string field ts
  simp [patternsOption?, startsAssignment_option_keyword, value]

theorem passes_patternsOption?_pattern (text : String) (ts : List Lexeme) :
    Passes (patternsOption? o) (optionLexemes .pattern (.str text) ++ ts)
      (some { o with pattern := some text }) ts := by
  have value : pattern ((Literal.str text).lexemes ++ ts) = ⟨.ok text, ts, []⟩ :=
    pattern_run text ts
  cases checked : Pattern.groupNames? text with
  | ok names =>
    refine .of_clean ?_
    simp [patternsOption?, startsAssignment_option_keyword, value, checked]
  | error flaw =>
    refine ⟨[⟨.uncheckedPattern flaw, ((Literal.str text).lexemes ++ ts).length⟩], ?_, ?_⟩
    · simp [patternsOption?, startsAssignment_option_keyword, value, checked]
    · exact List.forall_mem_singleton.mpr fun _ => rfl

theorem passes_patterns (source field : String) (pattern : Option String) :
    Passes patterns (Keyword.patterns.lexeme :: (optionLexemes .newField (.str field) ++
      (optionalLexemes (fun p => optionLexemes .pattern (.str p)) pattern ++ nameLexemes source)))
      (.extract ⟨.patterns, source, pattern, [field]⟩) [] := by
  have noOption : startsAssignment (nameLexemes source) = false := by
    rw [← List.append_nil (nameLexemes source)]
    exact startsAssignment_name source (by simp)
  have stop (o : PatternsOptions) :
      Passes (iterate patternsOption? o) (nameLexemes source) o (nameLexemes source) :=
    .iterate_none (.of_clean (by simp [patternsOption?, noOption]))
  have options : Passes (iterate patternsOption? ⟨some field, none⟩)
      (optionalLexemes (fun p => optionLexemes .pattern (.str p)) pattern ++ nameLexemes source)
      ⟨some field, pattern⟩ (nameLexemes source) := by
    cases pattern with
    | none => exact stop _
    | some text =>
      exact (passes_patternsOption?_pattern _ text _).iterate_some (length_lt_option _) (stop _)
  have name := fieldName_run source [] (by simp)
  rw [List.append_nil] at name
  apply Passes.bind (.of_clean rfl)
  apply Passes.bind
  · exact .iterate_some (.of_clean (patternsOption?_newField _ field _)) (length_lt_option _) options
  apply Passes.bind (.of_clean (need_run _ (nameLexemes_ne_nil source)))
  exact .bind (.of_clean name) (.of_clean rfl)

end Patterns

section Learn

variable {algorithm : Algorithm}

theorem parameter?_run {p : Parameter} (readable : p.IsReadable algorithm)
    (params : List Parameter) (ts : List Lexeme) :
    parameter? algorithm params (p.lexemes ++ ts) = ⟨.ok (some (p :: params)), ts, []⟩ := by
  obtain ⟨name, constant⟩ := p
  obtain ⟨type, known, accepted⟩ := readable.known
  have value : literal (constant.lexemes ++ ts) = ⟨.ok constant, ts, []⟩ :=
    literal_lexemes readable.value ts
  have lowercase : name.map Char.toLower = name := readable.lowercase
  have fits : type.filter (fun type => !type.accepts constant) = none := by
    cases type with
    | none => rfl
    | some type => simp [Option.filter, accepted type rfl]
  have start : startsAssignment (.word name :: .mark .equal :: (constant.lexemes ++ ts)) = true := by
    rcases Scan.nameKind_cases name.toList with ⟨k, kind, -⟩ | kind <;>
      simp [startsAssignment, Lexeme.word, kind]
  have kind : (Lexeme.word name).kind = Scan.nameKind name.toList := rfl
  have text : (Lexeme.word name).text = name := rfl
  simp [parameter?, Parameter.lexemes, start, value, kind, text, lowercase, known, fits]

/-- The loop over the parameters reads all of them. -/
theorem iterate_parameter? {params : List Parameter} (readable : ∀ p ∈ params, p.IsReadable algorithm)
    (before : List Parameter) :
    iterate (parameter? algorithm) before (params.flatMap Parameter.lexemes) =
      ⟨.ok (params.reverse ++ before), [], []⟩ := by
  induction params generalizing before with
  | nil => exact iterate_of_none (by simp [parameter?])
  | cons p params ih =>
    have first := parameter?_run (readable p (by simp)) before (params.flatMap Parameter.lexemes)
    have shorter : (params.flatMap Parameter.lexemes).length <
        (p.lexemes ++ params.flatMap Parameter.lexemes).length := by
      simp only [Parameter.lexemes, List.length_append, List.length_cons]
      omega
    rw [List.flatMap_cons, iterate_of_some first shorter, Outcome.after_nil,
      ih fun p' member => readable p' (by simp [member])]
    simp

theorem learn_run {params : List Parameter} (readable : ∀ p ∈ params, p.IsReadable algorithm) :
    learn algorithm (algorithm.keyword.lexeme :: params.flatMap Parameter.lexemes) =
      ⟨.ok (.learn algorithm params), [], []⟩ := by
  simp [learn, iterate_parameter? readable]

end Learn

theorem dataSource_lexemes_ne_nil {s : DataSource} (readable : s.IsReadable) : s.lexemes ≠ [] := by
  intro empty
  have found := dataSource_lexemes readable [] (by simp)
  rw [empty] at found
  cases congrArg Outcome.result found

/-- A parser that reads cleanly hands its value and its rest on. -/
theorem bind_of_clean {p : StageParser α} {f : α → StageParser β} {a : α} {o : StageOutcome β}
    (h : p ts = ⟨.ok a, us, []⟩) (h' : f a us = o) : (p >>= f) ts = o := by
  rw [bind_run, h, Outcome.bind_ok, h', Outcome.after_nil]

/-- A readable command is read back wherever it stands in a query.  Unless it takes a pattern, there
    is nothing to warn of. -/
theorem command_run {c : Command} (readable : c.IsReadable) (patternless : ∀ e, c ≠ .extract e)
    (first : Bool) : command Grammar.full first c.lexemes = ⟨.ok c, [], []⟩ := by
  apply bind_of_clean (lexemes_run _)
  cases c with
  | search body =>
    obtain ⟨nonempty, sources, filter⟩ := readable
    exact bind_of_clean (skip_run _ 1) (searchBody_run nonempty sources filter)
  | describe source => exact describe_run readable (dataSource_lexemes_ne_nil readable)
  | showDatasources => exact showDatasources_run
  | filter condition => exact filter_of_expression (expression_of_isWhole readable)
  | fields exclude names => exact fields_run exclude readable
  | rename renamings => exact rename_run readable.1
  | stats body => exact stats_run readable
  | dedup body => exact dedup_run readable
  | sort keys => exact sort_run readable.1
  | eval assignments => exact eval_run readable.1 fun a member => (readable.2 a member).2
  | head body => exact head_run readable.1 readable.2
  | top body => exact bind_of_clean (rank_run .top readable) rfl
  | rare body => exact bind_of_clean (rank_run .rare readable) rfl
  | extract body => exact absurd rfl (patternless body)
  | learn algorithm params => cases algorithm <;> exact learn_run readable

/-- A readable command is read back wherever it stands in a query, with warnings at most. -/
theorem passes_command {c : Command} (readable : c.IsReadable) (first : Bool) :
    Passes (command Grammar.full first) c.lexemes c [] := by
  by_cases patternless : ∀ e, c ≠ .extract e
  · exact .of_clean (command_run readable patternless first)
  obtain ⟨body, rfl⟩ := Classical.not_forall_not.mp patternless
  apply Passes.bind (.of_clean (lexemes_run _))
  obtain ⟨method, source, pattern, newFields⟩ := body
  have own := readable.fields
  cases method with
  | regex =>
    obtain ⟨text, rfl, rfl⟩ := own
    exact passes_parse source text
  | grok =>
    obtain ⟨text, rfl, rfl⟩ := own
    exact passes_grok source text
  | patterns =>
    obtain ⟨field, rfl⟩ := own
    exact passes_patterns source field pattern

/-- A stage that is a readable command without a pattern is all read, without a warning. -/
theorem stage_run {c : Command} (readable : c.IsReadable) (patternless : ∀ e, c ≠ .extract e)
    (first : Bool) : stage first c.lexemes = ⟨.ok (some c), [], []⟩ := by
  simp [stage, stageWith, command_run readable patternless first]

/-- A stage that is a readable command is all read. -/
theorem passes_stage {c : Command} (readable : c.IsReadable) (first : Bool) :
    Passes (stage first) c.lexemes (some c) [] := by
  obtain ⟨raised, found, warnings⟩ := passes_command readable first
  refine ⟨raised, ?_, warnings⟩
  simp [stage, stageWith, found]

end Parser

end PipedQuery
