import PipedQuery.Proofs.Grammar.Faults
import PipedQuery.Proofs.Pipeline.Canonical
import PipedQuery.Proofs.Pipeline.Limits

/-!
# No stage is lost silently

A stage with nothing but warnings is read to its end by one command (`Session.command_of_warnings`),
so a stage that gives none has an error.  With recovery this makes up an account of a whole query
(`Session.length_parseStages`, `Session.command_of_stage`): whatever its tokens are, whether stages
are broken, blank, or missing at either end, each of them is a command or an error
(`query_accounts_for_stages`).
-/

namespace PipedQuery

/-! Stages are what pipes cut tokens into. -/

/-- The stages are what stands between the pipes. -/
theorem tokens_stages (ts : List Token) :
    (stages ts).map Stage.tokens = ts.splitOnP Token.isPipe := by
  induction ts with
  | nil => rfl
  | cons t ts ih =>
    rw [List.splitOnP_cons_eq_if_modifyHead, ← ih, stages]
    split
    · rfl
    · cases found : stages ts with
      | nil =>
        rw [found] at ih
        exact absurd ih.symm (List.splitOnP_ne_nil Token.isPipe ts)
      | cons s more => rfl

/-- There is one stage more than there are pipes. -/
theorem length_stages (ts : List Token) : (stages ts).length = ts.countP Token.isPipe + 1 := by
  induction ts with
  | nil => rfl
  | cons t ts ih =>
    rw [stages, List.countP_cons]
    split
    · rw [List.length_cons, ih]
    · cases found : stages ts with
      | nil =>
        rw [found] at ih
        cases ih
      | cons s more =>
        rw [found] at ih
        exact ih

/-- A stage that raises only warnings is a command that leaves nothing. -/
theorem Parser.command_of_warnings {first : Bool} {ls : List Lexeme}
    (warnings : ∀ issue ∈ (stage first ls).raised, issue.cause.IsWarning) :
    ∃ c raised, command Grammar.full first ls = ⟨.ok c, [], raised⟩ := by
  have stops := (stopsAtErrors_command (Grammar.strict_level maxNesting) first).stops ls
  rw [stage, stageWith, bind_run, attempt_run] at warnings
  change ∀ issue, (command Grammar.full first ls).result = _ → _ at stops
  generalize command Grammar.full first ls = o at stops warnings ⊢
  obtain ⟨⟨issue⟩ | ⟨c⟩, rest, raised⟩ := o
  · have error := stops issue rfl
    exact absurd (warnings issue (by simp)) error.not_isWarning
  · cases rest with
    | nil => exact ⟨c, raised, rfl⟩
    | cons l rest =>
      have left : (Cause.expected .stageEnd).IsWarning := warnings ⟨_, rest.length + 1⟩ (by simp)
      exact absurd left Cause.IsError.not_isWarning

namespace Session

/-- A stage with nothing but warnings is read to its end by one command. -/
theorem command_of_warnings {stop : Position} {first : Bool} {stage : Stage}
    (clean : ∀ d ∈ (parseStage stop first stage).2, d.isError = false) :
    ∃ c raised, (parseStage stop first stage).1 = some c ∧
      Parser.command Grammar.full first stage.lexemes = ⟨.ok c, [], raised⟩ := by
  by_cases blank : stage.lexemes = []
  · have no (cause : Cause) [error : cause.IsError]
        (h : (stage.diagnose stop ⟨cause, 0⟩).isError = false) : False :=
      error.not_isWarning (isWarning_of_diagnose h)
    obtain ⟨tokens, pipe⟩ := stage
    obtain rfl := List.map_eq_nil_iff.mp blank
    cases pipe with
    | none => exact (no (.missing _) (clean _ List.mem_cons_self)).elim
    | some pipe => exact (no (.expected .command) (clean _ List.mem_cons_self)).elim
  rw [parseStage_diagnostics stop first blank] at clean
  have warnings : ∀ issue ∈ (Parser.stage first stage.lexemes).raised, issue.cause.IsWarning :=
    fun issue member => isWarning_of_diagnose (clean _ (List.mem_map_of_mem member))
  obtain ⟨c, raised, read⟩ := Parser.command_of_warnings warnings
  refine ⟨c, raised, ?_, read⟩
  rw [parseStage_command, stageCommand_eq, read]
  rfl

/-- With recovery there are no more commands than stages, and an error for each one that is
    missing. -/
theorem length_parseStages {s : Session} (recover : s.options.recover = true) (first : Bool)
    (more : List Stage) :
    (s.parseStages first more).1.length ≤ more.length ∧
      more.length ≤ (s.parseStages first more).1.length +
        (stageDiagnostics s.stop first more).countP Diagnostic.isError := by
  induction more generalizing s first with
  | nil => exact ⟨Nat.le_refl 0, Nat.zero_le _⟩
  | cons stage more ih =>
    obtain ⟨few, accounted⟩ := ih (s := s.behind first stage) recover false
    -- Behind the stage the text ends where it did.
    change _ ≤ _ + (stageDiagnostics s.stop false more).countP _ at accounted
    rw [parseStages_goesOn s first stage more (.inl recover), stageDiagnostics, List.countP_append]
    cases found : (parseStage s.stop first stage).1 with
    | some c =>
      simp only [Option.toList_some, List.singleton_append, List.length_cons]
      omega
    | none =>
      have error : 0 < (parseStage s.stop first stage).2.countP Diagnostic.isError := by
        by_contra free
        rw [Nat.not_lt, Nat.le_zero, List.countP_eq_zero] at free
        obtain ⟨c, -, some, -⟩ := command_of_warnings fun d member => by simpa using free d member
        rw [found] at some
        cases some
      simp only [Option.toList_none, List.nil_append, List.length_cons]
      omega

/-- Where only warnings are found, the commands are those of the stages one by one, and each of them
    leaves nothing of its stage. -/
theorem command_of_stage {s : Session} (recover : s.options.recover = true) {first : Bool}
    {more : List Stage} (clean : ∀ d ∈ stageDiagnostics s.stop first more, d.isError = false)
    {i : Nat} {stage : Stage} (here : more[i]? = some stage) :
    ∃ c raised, (s.parseStages first more).1[i]? = some c ∧
      Parser.command Grammar.full (first && i == 0) stage.lexemes = ⟨.ok c, [], raised⟩ := by
  induction more generalizing s first i with
  | nil => cases here
  | cons next more ih =>
    rw [stageDiagnostics, List.forall_mem_append] at clean
    obtain ⟨c, raised, found, read⟩ := command_of_warnings clean.1
    rw [parseStages_goesOn s first next more (.inl recover), found]
    cases i with
    | zero =>
      cases here
      exact ⟨c, raised, rfl, by simpa using read⟩
    | succ i =>
      obtain ⟨c', raised', there, read'⟩ := ih (s := s.behind first next) recover clean.2 here
      exact ⟨c', raised', by simpa using there, by simpa using read'⟩

end Session

/-- With recovery and room for more diagnostics no stage is lost silently: a query has at most one
    command for each stage and an error for each command that is missing.  The commands of a success
    are those of its stages, one by one. -/
theorem query_accounts_for_stages {tokens : List Token} {options : ParseOptions}
    (recover : options.recover = true)
    (room : (Session.ofTokens tokens options).query.diagnostics.length < options.maxDiagnostics) :
    let significant := tokens.filter fun t => t.isSignificant
    let pipes := significant.countP Token.isPipe
    let r := (Session.ofTokens tokens options).query
    r.query.commands.length ≤ pipes + 1 ∧
      pipes + 1 - r.query.commands.length ≤ r.errors.length ∧
      (r.isSuccess = true →
        r.query.commands.length = pipes + 1 ∧
          ∀ i, ∀ stage ∈ (significant.splitOnP Token.isPipe)[i]?,
            ∃ c raised, r.query.commands[i]? = some c ∧
              Parser.command Grammar.full (i == 0) (stage.map Token.toLexeme) =
                ⟨.ok c, [], raised⟩) := by
  intro significant pipes r
  let s := Session.ofTokens tokens options
  have commands : r.query.commands = (s.parseStages true (stages significant)).1 := rfl
  have diagnostics :
      r.diagnostics = Diagnostic.sorted (s.parseStages true (stages significant)).2.kept := rfl
  rw [Session.parseStages_recover s recover] at diagnostics
  have all : r.diagnostics =
      Diagnostic.sorted (s.raised ++ Session.stageDiagnostics s.stop true (stages significant)) := by
    change r.diagnostics.length < _ at room
    rw [diagnostics, Diagnostic.length_sorted] at room
    rw [diagnostics, Session.raised_eq_kept room, Session.raise]
  obtain ⟨few, accounted⟩ := Session.length_parseStages recover true (stages significant) (s := s)
  rw [length_stages, ← commands] at few accounted
  have errors : (Session.stageDiagnostics s.stop true (stages significant)).countP Diagnostic.isError ≤
      r.errors.length := by
    rw [ParseResult.errors, ← List.countP_eq_length_filter, all, Diagnostic.countP_sorted,
      List.countP_append]
    exact Nat.le_add_left ..
  refine ⟨few, by omega, fun success => ?_⟩
  have clean : ∀ d ∈ r.diagnostics, d.isError = false := by
    simpa [ParseResult.isSuccess] using success
  have none : r.errors = [] :=
    List.filter_eq_nil_iff.mpr fun d member => by simp [clean d member]
  rw [none, List.length_nil] at errors
  refine ⟨by omega, fun i stage here => ?_⟩
  rw [← tokens_stages, List.getElem?_map, Option.mem_def, Option.map_eq_some_iff] at here
  obtain ⟨stage, here, rfl⟩ := here
  rw [commands]
  refine Session.command_of_stage recover (fun d member => clean d ?_) here
  rw [all, Diagnostic.mem_sorted]
  exact List.mem_append_right _ member

/-- Five stages, the first of them blank, the third one broken and nothing behind the last pipe. -/
theorem query_accounts_for_stages_blank_broken :
    let r := (Session.ofTokens (scan "| head 5 | sort | head b |") {}).query
    r.query.commands.length = 2 ∧ 3 ≤ r.errors.length := by
  -- The text is scanned and parsed once for all three.
  have run :
      let s := Session.ofTokens (scan "| head 5 | sort | head b |") {}
      (s.parseStages true (stages s.tokens)).2.kept.length < 100 ∧
        ((scan "| head 5 | sort | head b |").filter fun t => t.isSignificant).countP
          Token.isPipe = 4 ∧ s.query.query.commands.length = 2 := by
    decide +kernel
  obtain ⟨few, pipes, commands⟩ := run
  have room : (Session.ofTokens (scan "| head 5 | sort | head b |") {}).query.diagnostics.length <
      100 := by
    rw [Session.query_eq, Session.result, Diagnostic.length_sorted]
    exact few
  have errors := (query_accounts_for_stages rfl room).2.1
  rw [pipes, commands] at errors
  exact ⟨commands, errors⟩

end PipedQuery
