import PipedQuery.Proofs.Grammar.Contexts
import PipedQuery.Proofs.Grammar.NameParts
import PipedQuery.Proofs.Pipeline.Printed
import PipedQuery.Proofs.Pipeline.Whole

/-!
# One expression in every context

A text that is an expression by itself is the same expression as a condition, as an assigned value,
and as the filter of a search, in front of its sources and behind them.  A condition that is all of a
query is an expression by itself (`parseExpression_contexts`), unless a hundred warnings hide that
there is more (`parse_unchecked`).
-/

namespace PipedQuery

open Scan

variable {text : String} {ls : List Lexeme} {x : Expr}

/-- Sources are written without a pipe. -/
theorem pipeless_sources {sources : List DataSource} (readable : ∀ s ∈ sources, s.IsReadable) :
    Pipeless (commaLexemes (sources.map DataSource.lexemes)) :=
  pipeless_commas fun s member => (readable s member).pipeless

/-- What stands behind `search` may be all of a query. -/
theorem parse_search {body : String} {c : Command} (reads : Reads body.toList ls)
    (pipeless : Pipeless ls) (whole : Parser.searchBody Grammar.full ls = ⟨.ok c, [], []⟩) :
    parse ("search " ++ body) = ⟨⟨[c]⟩, []⟩ := by
  have written : Reads ("search " ++ body).toList (Keyword.search.lexeme :: ls) := by
    simpa using reads.behind_as .search "search" rfl
  exact parse_of_command written (List.forall_mem_cons.mpr ⟨nofun, pipeless⟩) whole

/-- An expression behind `where` is scanned behind the keyword. -/
theorem reads_where (reads : Reads text.toList ls) :
    Reads ("where " ++ text).toList (Keyword.where_.lexeme :: ls) := by
  simpa using reads.behind_as .where_ "where" rfl

/-- Behind `where` a text is scanned as it is by itself, whatever it is. -/
theorem lexemes_where (e : String) :
    Scan.lexemes ("where " ++ e).toList = Keyword.where_.lexeme :: Scan.lexemes e.toList := by
  have word := reads_keyword_as .where_ "where" rfl
  have text : ("where " ++ e).toList = ("where" : String).toList ++ ' ' :: e.toList := by simp
  rw [text, lexemes_append (stops_cons.mpr rfl) word.closed, word.1, lexemes_blank rfl]
  rfl

/-- The condition of a `where` that is all of a query is an expression by itself. -/
theorem exists_isExpression_of_where {e : String}
    (success : (parse ("where " ++ e)).isSuccess = true)
    (query : (parse ("where " ++ e)).query = ⟨[.filter x]⟩)
    (room : (parse ("where " ++ e)).diagnostics.length < 100) : ∃ ls, IsExpression e ls x := by
  obtain ⟨_, ⟨rfl, sound⟩, pipeless, raised, warnings, read⟩ :=
    command_of_success success query room
  rw [lexemes_where] at sound pipeless read
  generalize found : Scan.lexemes e.toList = ls at sound pipeless read
  have strict := ((Grammar.strict_level maxNesting).expression).raises ls
  change (Parser.filter Grammar.full (Keyword.where_.lexeme :: ls)) = _ at read
  have written : ls ≠ [] := by
    rintro rfl
    cases congrArg Outcome.result read
  simp only [Parser.filter, Parser.bind_run, Parser.skip_run, List.drop_one, List.tail_cons,
    Outcome.bind_ok, Outcome.after_nil, Parser.need_run _ written] at read
  change ∀ issue ∈ (Grammar.full.expression ls).raised, _ at strict
  generalize whole : Grammar.full.expression ls = o at read strict
  obtain ⟨issue | y, rest, issues⟩ := o
  · cases read
  simp only [Outcome.bind_ok, Parser.pure_run, Outcome.after_mk, List.append_nil] at read
  cases read
  have silent : raised = [] := List.eq_nil_iff_forall_not_mem.mpr fun issue member =>
    (strict issue member).not_isWarning (warnings issue member)
  rw [silent] at whole
  refine ⟨ls, ⟨found, fun l member => ?_⟩, ?_, whole⟩
  · exact sound l (List.mem_cons_of_mem _ member)
  · exact (List.forall_mem_cons.mp pipeless).2

namespace IsExpression

variable {e : String} (h : IsExpression e ls x)
include h

/-- In a filter the expression is the condition. -/
theorem parse_where : parse ("where " ++ e) = ⟨⟨[.filter x]⟩, []⟩ := by
  have pipeless : Pipeless (Keyword.where_.lexeme :: ls) :=
    List.forall_mem_cons.mpr ⟨nofun, h.pipeless⟩
  exact parse_of_command (reads_where h.reads) pipeless (Parser.command_where h.whole)

/-- In an assignment the expression is the value. -/
theorem parse_eval {field : String} (scannable : IsScannable field) :
    parse ("eval " ++ writeName field ++ " = " ++ e) = ⟨⟨[.eval [⟨field, x⟩]]⟩, []⟩ := by
  have value := h.reads.blank.mark (show plainMark? '=' = some .equal from rfl)
  have reads := ((reads_name scannable).append value.blank (stops_cons.mpr rfl)).behind_as
    .eval "eval" rfl
  have written : Reads ("eval " ++ writeName field ++ " = " ++ e).toList
      (Keyword.eval.lexeme :: (nameLexemes field ++ .mark .equal :: ls)) := by
    simpa using reads
  have pipeless : Pipeless (nameLexemes field ++ .mark .equal :: ls) :=
    List.forall_mem_append.mpr
      ⟨pipeless_nameLexemes _, List.forall_mem_cons.mpr ⟨nofun, h.pipeless⟩⟩
  exact parse_of_command written (List.forall_mem_cons.mpr ⟨nofun, pipeless⟩)
    (Parser.eval_of_expression h.whole field)

section Search

variable {sources : List DataSource} (nonempty : sources ≠ [])
  (readable : ∀ s ∈ sources, s.IsReadable)
include nonempty readable

/-- Behind the sources of a search the expression is its filter. -/
theorem parse_search_sources :
    parse ("search " ++ ("source=" ++ commaList (sources.map DataSource.text) ++ " " ++ e)) =
      ⟨⟨[.search ⟨sources, some x⟩]⟩, []⟩ := by
  have body := reads_keyword_equal .source "source" rfl
    ((reads_sources readable).append h.reads.blank (stops_cons.mpr rfl))
  have written : Reads ("source=" ++ commaList (sources.map DataSource.text) ++ " " ++ e).toList
      (Keyword.source.lexeme :: .mark .equal ::
        (commaLexemes (sources.map DataSource.lexemes) ++ ls)) := by
    simpa using body
  refine parse_search written ?_ (Parser.searchBody_of_sources h.whole nonempty readable)
  exact List.forall_mem_cons.mpr ⟨nofun, List.forall_mem_cons.mpr ⟨nofun,
    List.forall_mem_append.mpr ⟨pipeless_sources readable, h.pipeless⟩⟩⟩

/-- In front of the sources of a search it is so too, if it does not look like a source clause
    itself. -/
theorem parse_search_filter (plain : Parser.startsSourceClause ls = false) :
    parse ("search " ++ (e ++ " source=" ++ commaList (sources.map DataSource.text))) =
      ⟨⟨[.search ⟨sources, some x⟩]⟩, []⟩ := by
  have clause := reads_keyword_equal .source "source" rfl (reads_sources readable)
  have body := h.reads.append clause.blank (stops_cons.mpr rfl)
  have written : Reads (e ++ " source=" ++ commaList (sources.map DataSource.text)).toList
      (ls ++ Keyword.source.lexeme :: .mark .equal ::
        commaLexemes (sources.map DataSource.lexemes)) := by
    simpa using body
  refine parse_search written ?_ (Parser.searchBody_of_filter h.whole nonempty readable plain)
  exact List.forall_mem_append.mpr ⟨h.pipeless, List.forall_mem_cons.mpr ⟨nofun,
    List.forall_mem_cons.mpr ⟨nofun, pipeless_sources readable⟩⟩⟩

end Search

end IsExpression

theorem isPlainSource_logs : isPlainSource "logs" = true := rfl

theorem isReadable_logs : ∀ s ∈ [(⟨none, "logs"⟩ : DataSource)], s.IsReadable := by
  rw [List.forall_mem_singleton]
  change if isPlainSource "logs" = true then isSourceName (Scan.lexemes "logs".toList) = true
    else IsScannable "logs"
  rw [if_pos isPlainSource_logs]
  have continued : "logs".toList.tail.all isNameContinue = true := rfl
  have word : IsWord "logs".toList := ⟨rfl, List.all_eq_true.mp continued⟩
  have alone : ∀ q ∈ ([] : List (List Char)), IsNamePart q := nofun
  exact isSourceName_lexemes word alone rfl

/-- A text is an expression by itself if and only if behind `where` it is the condition that is all
    of the query, unless a hundred diagnostics are kept.  Then it is the same expression as an
    assigned value, and as the filter of a search behind the clause on its sources and, unless it
    starts like that clause, in front of it. -/
theorem parseExpression_contexts (e : String) (x : Expr) :
    (parseExpression e = .ok x ↔
      (parse ("where " ++ e)).isSuccess = true ∧
        (parse ("where " ++ e)).query = ⟨[.filter x]⟩ ∧
        (parse ("where " ++ e)).diagnostics.length < 100) ∧
      (parseExpression e = .ok x →
        parse ("where " ++ e) = ⟨⟨[.filter x]⟩, []⟩ ∧
        parse ("eval f = " ++ e) = ⟨⟨[.eval [⟨"f", x⟩]]⟩, []⟩ ∧
        parse ("search source=logs " ++ e) = ⟨⟨[.search ⟨[⟨none, "logs"⟩], some x⟩]⟩, []⟩ ∧
        (Parser.startsSourceClause
            (((scan e).filter fun t => t.isSignificant).map Token.toLexeme) = false →
          parse ("search " ++ e ++ " source=logs") =
            ⟨⟨[.search ⟨[⟨none, "logs"⟩], some x⟩]⟩, []⟩)) := by
  refine ⟨⟨fun parsed => ?_, fun ⟨success, query, room⟩ => ?_⟩, fun parsed => ?_⟩
  · obtain ⟨ls, h⟩ := exists_isExpression parsed
    rw [h.parse_where]
    exact ⟨rfl, rfl, Nat.succ_pos 99⟩
  · exact parseExpression_ok_iff.mpr (exists_isExpression_of_where success query room)
  · obtain ⟨ls, h⟩ := exists_isExpression parsed
    have written : commaList ([(⟨none, "logs"⟩ : DataSource)].map DataSource.text) = "logs" := by
      simp [commaList, DataSource.text, isPlainSource_logs]
    have name : "eval " ++ writeName "f" ++ " = " = "eval f = " := by
      rw [show "f" = String.singleton 'f' from rfl, writeName_letter rfl]
      rfl
    have clause : "search source=logs " ++ e = "search " ++ ("source=" ++ "logs" ++ " " ++ e) :=
      String.toList_inj.mp (by simp only [String.toList_append]; rfl)
    have behind : "search " ++ e ++ " source=logs" = "search " ++ (e ++ " source=" ++ "logs") :=
      String.toList_inj.mp (by simp [String.toList_append])
    have tokens : ((scan e).filter fun t => t.isSignificant).map Token.toLexeme = ls :=
      tokens_ofTokens h.reads {}
    rw [← name, clause, behind, ← written, tokens]
    exact ⟨h.parse_where, h.parse_eval fun _ => rfl,
      h.parse_search_sources (List.cons_ne_nil _ _) isReadable_logs,
      h.parse_search_filter (List.cons_ne_nil _ _) isReadable_logs⟩

/-- An expression that ends in the word that the clause behind it starts with. -/
theorem parseExpression_contexts_source :
    parse ("search " ++ "a and source" ++ " source=logs") =
      ⟨⟨[.search ⟨[⟨none, "logs"⟩], some (.binary .and (.field "a") (.field "source"))⟩]⟩, []⟩ := by
  have source : Expr.Buildable (.field "source") :=
    .field (by decide) (by decide +kernel) (by decide +kernel)
  have built : Expr.Buildable (.binary .and (.field "a") (.field "source")) :=
    .binary nofun (.field_letter 'a') source
  have parsed := parseExpression_readable (built.readable .other) (by decide)
  have written : Expr.text (.binary .and (.field "a") (.field "source")) = "a and source" ∧
      Parser.startsSourceClause
        (((scan "a and source").filter fun t => t.isSignificant).map Token.toLexeme) = false := by
    decide +kernel
  rw [written.1] at parsed
  exact ((parseExpression_contexts _ _).2 parsed).2.2.2 written.2

section Unchecked

/-- A pattern that cannot be checked, as an option. -/
def uncheckedOption : List Lexeme := optionLexemes .pattern (.str "(")

/-- A condition, and behind it a stage that lacks its field and has a number of patterns that cannot
    be checked. -/
def uncheckedText : Nat → String
  | 0 => "a | patterns"
  | n + 1 => uncheckedText n ++ "\npattern='('"

/-- The lexemes of the options of the second stage. -/
def uncheckedOptions (n : Nat) : List Lexeme := (List.replicate n uncheckedOption).flatten

/-- The text with `n` unchecked patterns scans as one stage and `n` options behind a pipe. -/
theorem reads_uncheckedText (n : Nat) :
    Reads (uncheckedText n).toList
      ([Lexeme.word "a"] ++ .mark .pipe :: Keyword.patterns.lexeme :: uncheckedOptions n) := by
  induction n with
  | zero =>
    exact reads_pipe (reads_word (s := "a") ⟨rfl, nofun⟩)
      (reads_keyword_as .patterns "patterns" rfl)
  | succ n ih =>
    have option := reads_keyword_equal .pattern "pattern" rfl (reads_string "(")
    have text : ("\npattern='('" : String).toList =
        '\n' :: ("pattern".toList ++ '=' :: (writeString "(").toList) := rfl
    have behind : Reads ("\npattern='('" : String).toList uncheckedOption := by
      rw [text]
      exact ⟨(lexemes_blank rfl _).trans option.1, option.2⟩
    have whole := ih.append behind (stops_cons.mpr rfl)
    rw [uncheckedText, String.toList_append, uncheckedOptions, List.replicate_succ',
      List.flatten_append]
    simpa [uncheckedOptions] using whole

namespace Parser

/-- An unchecked pattern is taken, with a warning. -/
theorem patternsOption?_unchecked : ∃ cause : Cause, cause.IsWarning ∧
    ∀ o ts, patternsOption? o (uncheckedOption ++ ts) =
      ⟨.ok (some { o with pattern := some "(" }), ts, [⟨cause, ts.length + 1⟩]⟩ := by
  have refused : (Pattern.groupNames? "(").toBool = false := rfl
  cases checked : Pattern.groupNames? "(" with
  | ok names =>
    rw [checked] at refused
    cases refused
  | error flaw =>
    refine ⟨.uncheckedPattern flaw, fun _ => rfl, fun o ts => ?_⟩
    have value : pattern ((Literal.str "(").lexemes ++ ts) = ⟨.ok "(", ts, []⟩ := pattern_run "(" ts
    simp [patternsOption?, uncheckedOption, startsAssignment_option_keyword, value, checked]
    exact Nat.add_comm 1 _

/-- Each of the options gives a warning, and the stage stops behind the last one. -/
theorem patterns_unchecked (n : Nat) :
    ∃ raised : List Issue,
      patterns (Keyword.patterns.lexeme :: uncheckedOptions n) =
        ⟨.error ⟨.missing .patternsField, 0⟩, [], raised⟩ ∧
      raised.length = n ∧ ∀ issue ∈ raised, issue.cause.IsWarning := by
  obtain ⟨cause, warning, step⟩ := patternsOption?_unchecked
  have options (o : PatternsOptions) : ∃ o' raised,
      iterate patternsOption? o (uncheckedOptions n) = ⟨.ok o', [], raised⟩ ∧
        raised.length = n ∧ ∀ issue ∈ raised, issue.cause.IsWarning := by
    induction n generalizing o with
    | zero => exact ⟨o, [], iterate_of_none rfl, rfl, List.forall_mem_nil _⟩
    | succ n ih =>
      obtain ⟨o', raised, run, length, warnings⟩ := ih { o with pattern := some "(" }
      refine ⟨o', ⟨cause, (uncheckedOptions n).length + 1⟩ :: raised, ?_, congrArg (· + 1) length,
        List.forall_mem_cons.mpr ⟨warning, warnings⟩⟩
      rw [uncheckedOptions, List.replicate_succ, List.flatten_cons,
        iterate_of_some (step o _) (length_lt_option _)]
      change (iterate patternsOption? _ (uncheckedOptions n)).after _ = _
      rw [run]
      rfl
  obtain ⟨o, raised, run, length, warnings⟩ := options ⟨none, none⟩
  refine ⟨raised, ?_, length, warnings⟩
  simp [patterns, run, need]

end Parser

/-- What stands behind the condition is no expression. -/
theorem parseExpression_unchecked (n : Nat) (x : Expr) :
    parseExpression (uncheckedText n) ≠ .ok x := by
  intro parsed
  obtain ⟨ls, h⟩ := exists_isExpression parsed
  have pipe : Lexeme.mark .pipe ∈ ls := by
    rw [← h.reads.1, (reads_uncheckedText n).1]
    simp
  exact h.pipeless _ pipe rfl

/-- The lexemes of the two stages. -/
def uncheckedStages (n : Nat) : List (List Lexeme) :=
  [[Keyword.where_.lexeme, .word "a"], Keyword.patterns.lexeme :: uncheckedOptions n]

theorem reads_unchecked (n : Nat) :
    Reads ("where " ++ uncheckedText n).toList (pipeLexemes (uncheckedStages n)) := by
  simpa [pipeLexemes, uncheckedStages] using reads_where (reads_uncheckedText n)

theorem splitPipes_unchecked (n : Nat) :
    splitPipes (pipeLexemes (uncheckedStages n)) = uncheckedStages n := by
  have one : Pipeless uncheckedOption := by
    simp [uncheckedOption, optionLexemes, (Literal.str "(").pipeless_lexemes]
  have options : Pipeless (uncheckedOptions n) := by
    intro l member
    obtain ⟨option, given, inside⟩ := List.mem_flatten.mp member
    rw [List.eq_of_mem_replicate given] at inside
    exact one l inside
  have word (k : Keyword) : k.lexeme.kind ≠ .mark .pipe := by simp
  have condition : Pipeless [Keyword.where_.lexeme, .word "a"] :=
    List.forall_mem_cons.mpr ⟨word _, List.forall_mem_singleton.mpr (Scan.word_ne_mark "a" .pipe)⟩
  refine splitPipes_pipeLexemes (List.cons_ne_nil _ _) ?_
  simp only [uncheckedStages, List.forall_mem_cons]
  exact ⟨condition, List.forall_mem_cons.mpr ⟨word _, options⟩, List.forall_mem_nil _⟩

/-- The condition in front of the unchecked patterns is a whole command. -/
theorem filter_unchecked : Parser.command Grammar.full true [Keyword.where_.lexeme, .word "a"] =
    ⟨.ok (.filter (.field "a")), [], []⟩ := by
  have name : nameLexemes "a" = [.word "a"] := nameLexemes_letter (c := 'a') rfl
  have whole : (Expr.field "a").IsWhole :=
    ⟨(Expr.Buildable.field_letter 'a').readable .other, by decide⟩
  have condition := Parser.expression_of_isWhole whole
  rw [Expr.lexemes, name] at condition
  exact Parser.command_where condition

/-- Behind a hundred warnings the second stage is lost without an error. -/
theorem parse_unchecked {n : Nat} (many : 100 ≤ n) :
    (parse ("where " ++ uncheckedText n)).isSuccess = true ∧
      (parse ("where " ++ uncheckedText n)).query = ⟨[.filter (.field "a")]⟩ := by
  obtain ⟨raised, lost, length, warnings⟩ := Parser.patterns_unchecked n
  let missing : Issue := ⟨.missing .patternsField, 0⟩
  have command : Parser.command Grammar.full false (Keyword.patterns.lexeme :: uncheckedOptions n) =
    ⟨.error missing, [], raised⟩ := lost
  let s := Session.ofTokens (scan ("where " ++ uncheckedText n)) {}
  have tokens := tokens_ofTokens (reads_unchecked n) {}
  constructor
  · have lexemes : (stages s.tokens).map Stage.lexemes = uncheckedStages n := by
      rw [lexemes_stages, tokens, splitPipes_unchecked]
    obtain ⟨first, others, both, condition, behind⟩ := List.map_eq_cons_iff.mp lexemes
    obtain ⟨second, rfl, later⟩ := List.map_eq_singleton_iff.mp behind
    have sound : (Parser.stage true first.lexemes).raised = [] := by
      simp [condition, Parser.stage, Parser.stageWith, filter_unchecked]
    have broken : (Parser.stage false second.lexemes).raised = raised ++ [missing] := by
      simp [later, Parser.stage, Parser.stageWith, command]
    have found : findings ("where " ++ uncheckedText n) =
        (raised ++ [missing]).map (second.diagnose s.stop) := by
      have clean : s.raised = [] := lexicalDiagnostics_scan (reads_unchecked n)
      change s.raised ++ Session.stageDiagnostics s.stop true (stages s.tokens) = _
      rw [clean, both, Session.stageDiagnostics, Session.stageDiagnostics, Session.stageDiagnostics,
        Session.parseStage_diagnostics, Session.parseStage_diagnostics, sound, broken]
      · simp
      · simp [later]
      · simp [condition]
    rw [parse, isSuccess_iff_findings, found, List.map_append,
      List.take_append_of_le_length (by rw [List.length_map]; omega)]
    intro d member
    obtain ⟨issue, given, rfl⟩ := List.mem_map.mp (List.mem_of_mem_take member)
    exact Session.isError_diagnose (warnings issue given) second s.stop
  · have commands : (parse ("where " ++ uncheckedText n)).query.commands =
        stageCommands true (uncheckedStages n) := by
      rw [parse, commands_parseWith rfl, ← significant_scan, ← splitPipes_unchecked, ← tokens]
      rfl
    have first : stageCommand true [Keyword.where_.lexeme, .word "a"] =
        some (.filter (.field "a")) := by
      rw [Session.stageCommand_eq, filter_unchecked]
      rfl
    have second : stageCommand false (Keyword.patterns.lexeme :: uncheckedOptions n) = none := by
      rw [Session.stageCommand_eq, command]
      rfl
    refine congrArg Query.mk (commands.trans ?_)
    simp [uncheckedStages, stageCommands, first, second]

/-- A text that is no expression, although behind `where` it is parsed into nothing but a
    condition. -/
theorem parseExpression_contexts_unchecked :
    (parse ("where " ++ uncheckedText 100)).isSuccess = true ∧
      (parse ("where " ++ uncheckedText 100)).query = ⟨[.filter (.field "a")]⟩ ∧
      ∀ x, parseExpression (uncheckedText 100) ≠ .ok x := by
  obtain ⟨success, query⟩ := parse_unchecked (Nat.le_refl 100)
  exact ⟨success, query, parseExpression_unchecked 100⟩

end Unchecked

end PipedQuery
