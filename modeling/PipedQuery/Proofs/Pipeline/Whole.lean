import PipedQuery.Proofs.Pipeline.Accounted

/-!
# Texts that are one expression or one command

A text is parsed into an expression if and only if its lexemes are sound and are read as the
expression without an issue, with none left (`parseExpression_ok_iff`).  A text whose lexemes are read
as a command in this way is parsed into nothing but that command (`parse_of_command`), and a success
with one command comes from such lexemes (`command_of_success`), unless so much is wrong that errors
may be lost.
-/

namespace PipedQuery

open Scan

variable {text : String} {ls : List Lexeme} {x : Expr}

/-! Texts without lexical problems. -/

/-- Whatever the scanner reports is an error. -/
theorem isError_of_mem_lexicalDiagnostics {tokens : List Token} {d : Diagnostic}
    (member : d ∈ lexicalDiagnostics tokens) : d.isError = true := by
  obtain ⟨t, -, found⟩ := List.mem_filterMap.mp member
  obtain ⟨cause, lexical, rfl⟩ := Option.map_eq_some_iff.mp found
  unfold lexicalCause? at lexical
  split at lexical
  · cases lexical
    rfl
  · split at lexical <;> cases lexical
    rfl
  · cases lexical

/-- A lexeme that the scanner has nothing to report about is sound. -/
theorem Lexeme.isSound_of_lexicalCause? {l : Lexeme} (word : l.kind ≠ .space)
    (none : lexicalCause? l = none) : l.IsSound := by
  obtain ⟨kind, letters⟩ := l
  cases kind with
  | space => exact absurd rfl word
  | unrecognized => cases none
  | quoted q =>
    refine ⟨rfl, fun _ => ?_⟩
    by_contra unclosed
    simp [lexicalCause?, unclosed] at none
  | _ => exact ⟨rfl, fun quoted => by cases quoted⟩

/-- A text without lexical problems consists of sound lexemes. -/
theorem reads_of_clean (clean : lexicalDiagnostics (scan text) = []) :
    Reads text.toList (Scan.lexemes text.toList) := by
  refine ⟨rfl, fun l member => ?_⟩
  rw [← lexemes_scan] at member
  obtain ⟨t, found, rfl⟩ := List.mem_map.mp member
  obtain ⟨known, word⟩ := List.mem_filter.mp found
  exact Lexeme.isSound_of_lexicalCause? (by simpa using word)
    (by simpa using List.filterMap_eq_nil_iff.mp clean t known)

/-! Texts that are an expression. -/

/-- Whether the text consists of the lexemes, and these are the expression and nothing else. -/
structure IsExpression (text : String) (ls : List Lexeme) (x : Expr) : Prop where
  reads : Reads text.toList ls
  pipeless : Pipeless ls
  whole : Grammar.full.expression ls = ⟨.ok x, [], []⟩

/-- A text whose tokens include no pipe reads as lexemes without one. -/
theorem pipeless_of_tokens {options : ParseOptions} (reads : Reads text.toList ls)
    (apart : ∀ t ∈ (Session.ofTokens (scan text) options).tokens, t.kind ≠ .mark .pipe) :
    Pipeless ls := by
  intro l member
  obtain ⟨t, given, rfl⟩ := List.mem_map.mp (tokens_ofTokens reads options ▸ member)
  exact apart t given

namespace Session

/-- A session that was all read by one parser had no pipe. -/
theorem run_of_whole {α : Type} {p : StageParser α} [advances : Parser.Advances p] {s s' : Session}
    {a : α} (found : s.run p = (.ok a, s')) (all : s'.tokens = []) :
    (∀ t ∈ s.tokens, t.kind ≠ .mark .pipe) ∧ ∃ raised : List Issue,
      p (s.tokens.map Token.toLexeme) = ⟨.ok a, [], raised⟩ ∧
        s'.options = s.options ∧ s'.raised = s.raised ++ raised.map (s.stage.diagnose s.stop) := by
  have suffix := (advances.rest_suffix s.stage.lexemes).length_le
  rw [run] at found
  generalize read : p s.stage.lexemes = o at found suffix
  obtain ⟨issue | b, rest, raised⟩ := o
  · cases found
  cases found
  rw [List.drop_eq_nil_iff] at all
  have part : s.stage.tokens <+: s.tokens := List.takeWhile_prefix _
  have few := part.length_le
  rw [Stage.lexemes, List.length_map] at suffix
  change s.tokens.length ≤ s.stage.tokens.length - rest.length at all
  change rest.length ≤ _ at suffix
  have none : rest = [] := List.eq_nil_of_length_eq_zero (by omega)
  have whole : s.stage.tokens = s.tokens := part.eq_of_length (by omega)
  subst none
  refine ⟨fun t member => ?_, raised, ?_, rfl, rfl⟩
  · have apart := List.all_eq_true.mp (List.all_takeWhile (l := s.tokens)) t (whole.symm ▸ member)
    simpa [Token.isPipe] using apart
  · rw [← read, Stage.lexemes, whole]

/-- An expression that is accepted on its own leaves no token and no error behind. -/
theorem expression_of_standalone {s : Session} (parsed : s.standalone = .ok x) :
    ∃ s', s.expression = (.ok x, s') ∧ s'.tokens = [] ∧ s'.hasErrors = false := by
  unfold standalone at parsed
  split at parsed
  · next e s' found =>
    split at parsed
    · next none =>
      split at parsed
      · cases parsed
      · next clean =>
        cases parsed
        exact ⟨s', found, none, by simpa using clean⟩
    · cases parsed
  · cases parsed

/-- Where there is nothing but errors, none of them is overlooked. -/
theorem raised_of_no_errors {s : Session} (room : s.options.maxDiagnostics ≠ 0)
    (clean : s.hasErrors = false) (errors : ∀ d ∈ s.raised, d.isError = true) : s.raised = [] := by
  cases found : s.raised with
  | nil => rfl
  | cons d ds =>
    obtain ⟨m, limit⟩ := Nat.exists_eq_succ_of_ne_zero room
    rw [hasErrors, kept, found, limit, List.take_succ_cons, List.any_cons,
      errors d (found ▸ List.mem_cons_self)] at clean
    cases clean

end Session

/-- All that can be wrong with an expression is an error, so a text that is one has nothing
    wrong. -/
theorem exists_isExpression (parsed : parseExpression text = .ok x) :
    ∃ ls, IsExpression text ls x := by
  let s := Session.ofTokens (scan text) {}
  have strict : Parser.Strict Parser.expression := (Grammar.strict_level maxNesting).expression
  have advances : Parser.Advances Parser.expression :=
    (Grammar.consumes_level maxNesting).expression.advances
  obtain ⟨s', found, all, clean⟩ := Session.expression_of_standalone (s := s) parsed
  obtain ⟨apart, raised, whole, options, issues⟩ := Session.run_of_whole found all
  have errors : ∀ d ∈ s'.raised, d.isError = true := by
    intro d member
    rw [issues] at member
    rcases List.mem_append.mp member with lexical | later
    · exact isError_of_mem_lexicalDiagnostics lexical
    · obtain ⟨issue, given, rfl⟩ := List.mem_map.mp later
      have error : issue.cause.IsError := strict.raises _ issue (by rw [whole]; exact given)
      by_contra warning
      exact error.not_isWarning (Session.isWarning_of_diagnose (by simpa using warning))
  have none := Session.raised_of_no_errors (options ▸ Nat.succ_ne_zero 99) clean errors
  rw [none] at issues
  obtain ⟨lexical, silent⟩ := List.append_eq_nil_iff.mp issues.symm
  have reads := reads_of_clean lexical
  rw [List.map_eq_nil_iff.mp silent, tokens_ofTokens reads {}] at whole
  exact ⟨_, reads, pipeless_of_tokens reads apart, whole⟩

/-- A text is parsed into an expression if and only if its lexemes are. -/
theorem parseExpression_ok_iff : parseExpression text = .ok x ↔ ∃ ls, IsExpression text ls x :=
  ⟨exists_isExpression, fun ⟨_, h⟩ => parseExpression_of_ok h.reads h.pipeless h.whole⟩

/-! Texts that are a command. -/

/-- A text without pipes is a single stage. -/
theorem stages_of_pipeless (reads : Reads text.toList ls) (pipeless : Pipeless ls) :
    ∃ stage : Stage, stages (Session.ofTokens (scan text) {}).tokens = [stage] ∧
      stage.lexemes = ls := by
  refine List.map_eq_singleton_iff.mp ?_
  rw [lexemes_stages, tokens_ofTokens reads, splitPipes_of_pipeless pipeless]

/-- A text that is one command is what the query consists of. -/
theorem parse_of_command {c : Command} (reads : Reads text.toList ls) (pipeless : Pipeless ls)
    (whole : Parser.command Grammar.full true ls = ⟨.ok c, [], []⟩) :
    parse text = ⟨⟨[c]⟩, []⟩ := by
  let s := Session.ofTokens (scan text) {}
  have clean : s.raised = [] := lexicalDiagnostics_scan reads
  obtain ⟨stage, single, rfl⟩ := stages_of_pipeless reads pipeless
  have staged : Session.parseStage s.stop true stage = (some c, []) :=
    Session.parseStage_of_command whole
  change s.query = _
  rw [Session.query_eq, single, Session.parseStages_goesOn s true stage [] (.inl rfl), staged]
  simp [Session.parseStages, Session.behind, staged, Session.raise, clean, Session.result,
    Session.kept, Diagnostic.sorted]

/-- A parse with fewer diagnostics than there may be has all that there are. -/
theorem diagnostics_of_room (room : (parse text).diagnostics.length < 100) :
    (parse text).diagnostics = Diagnostic.sorted (findings text) := by
  rw [parse, diagnostics_parseWith rfl, Diagnostic.length_sorted, List.length_take] at room
  change min 100 _ < 100 at room
  rw [parse, diagnostics_parseWith rfl, List.take_of_length_le]
  change _ ≤ 100
  omega

/-- In a success with room left for diagnostics no error can have been dropped. -/
theorem clean_of_success (success : (parse text).isSuccess = true)
    (room : (parse text).diagnostics.length < 100) : ∀ d ∈ findings text, d.isError = false := by
  rw [ParseResult.isSuccess, diagnostics_of_room room, Diagnostic.any_sorted,
    Bool.not_eq_true', List.any_eq_false] at success
  simpa using success

/-- A success with a single command has no pipe. -/
theorem pipeless_of_success {c : Command} (reads : Reads text.toList ls)
    (query : (parse text).query = ⟨[c]⟩) (clean : ∀ d ∈ findings text, d.isError = false) :
    Pipeless ls := by
  let s := Session.ofTokens (scan text) {}
  have commands : (s.parseStages true (stages s.tokens)).1 = [c] := congrArg Query.commands query
  have none : (Session.stageDiagnostics s.stop true (stages s.tokens)).countP
      Diagnostic.isError = 0 := by
    rw [List.countP_eq_zero]
    exact fun d member => by simp [(List.forall_mem_append.mp clean).2 d member]
  have accounted := (Session.length_parseStages (s := s) rfl true (stages s.tokens)).2
  rw [length_stages, none, commands] at accounted
  have apart : ∀ t ∈ s.tokens, ¬t.isPipe = true :=
    List.countP_eq_zero.mp (by simpa using accounted)
  exact pipeless_of_tokens reads fun t member => by simpa [Token.isPipe] using apart t member

/-- The only stage of a query without errors is read to its end by one command. -/
theorem command_of_success {c : Command} (success : (parse text).isSuccess = true)
    (query : (parse text).query = ⟨[c]⟩) (room : (parse text).diagnostics.length < 100) :
    ∃ ls, Reads text.toList ls ∧ Pipeless ls ∧ ∃ raised : List Issue,
      (∀ issue ∈ raised, issue.cause.IsWarning) ∧
        Parser.command Grammar.full true ls = ⟨.ok c, [], raised⟩ := by
  let s := Session.ofTokens (scan text) {}
  have clean := clean_of_success success room
  obtain ⟨lexical, staged⟩ := List.forall_mem_append.mp clean
  have reads : Reads text.toList (Scan.lexemes text.toList) :=
    reads_of_clean <| List.eq_nil_iff_forall_not_mem.mpr fun d member => by
      cases (isError_of_mem_lexicalDiagnostics member).symm.trans (lexical d member)
  have pipeless := pipeless_of_success reads query clean
  obtain ⟨stage, single, same⟩ := stages_of_pipeless reads pipeless
  change ∀ d ∈ Session.stageDiagnostics s.stop true (stages s.tokens), _ at staged
  rw [single, Session.stageDiagnostics, Session.stageDiagnostics, List.append_nil] at staged
  obtain ⟨c', raised, given, read⟩ := Session.command_of_warnings staged
  have commands : (s.parseStages true (stages s.tokens)).1 = [c] := congrArg Query.commands query
  rw [single, Session.parseStages_goesOn s true stage [] (.inl rfl), given] at commands
  cases commands
  rw [Session.parseStage_of_command read] at staged
  rw [same] at read
  refine ⟨_, reads, pipeless, raised, fun issue member => ?_, read⟩
  refine Session.isWarning_of_diagnose (staged _ (List.mem_map_of_mem ?_))
  exact List.mem_append_left _ member

end PipedQuery
