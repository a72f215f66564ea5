import PipedQuery.Proofs.Command.Clear
import PipedQuery.Proofs.Expr.Buildable
import PipedQuery.Proofs.Grammar.KeptStages
import PipedQuery.Proofs.Pipeline.Queries
import PipedQuery.Proofs.Pipeline.Sessions

/-!
# Canonical texts

A query that is parsed without errors is what its canonical text is parsed into, unless something in
that text is taken for something else (`parseWith_canonical`).
-/

namespace PipedQuery

open PipedQuery.Expr

/-- A cause that counts as a warning at one place is one everywhere. -/
theorem Cause.isWarning_of_kind {cause : Cause} {found : Option Lexeme}
    (warning : cause.kind found = .invalidPattern) : cause.IsWarning := by
  intro found'
  cases cause with
  | uncheckedPattern | noNamedGroup | noGrokField => rfl
  | expected what =>
    cases what with
    | pattern =>
      simp only [kind] at warning
      split at warning <;> cases warning
    | _ => cases warning
  | _ => cases warning

/-- Whether nothing in the canonical text of the query is taken for something else. -/
def Query.IsClear (q : Query) : Prop := ∀ c ∈ q.commands, c.IsClear

namespace Session

/-- A diagnostic that is no error is that of a warning. -/
theorem isWarning_of_diagnose {issue : Issue} {stage : Stage} {stop : Position}
    (clean : (stage.diagnose stop issue).isError = false) : issue.cause.IsWarning := by
  have kind : ∃ found, (stage.diagnose stop issue).kind = issue.cause.kind found := by
    unfold Stage.diagnose Cause.diagnose
    split <;> exact ⟨_, rfl⟩
  obtain ⟨found, same⟩ := kind
  have warning : issue.cause.kind found = .invalidPattern := by
    rw [← same]
    unfold Diagnostic.isError Diagnostic.severity at clean
    cases other : (stage.diagnose stop issue).kind with
    | invalidPattern => rfl
    | _ =>
      rw [other] at clean
      cases clean
  exact Cause.isWarning_of_kind warning

/-- A stage with warnings at most is a command that is built without errors. -/
theorem exists_command_of_clean {stop : Position} {first : Bool} {stage : Stage}
    (genuine : Genuine stage.lexemes)
    (clean : ∀ d ∈ (parseStage stop first stage).2, d.isError = false) :
    ∃ c, (parseStage stop first stage).1 = some c ∧ c.Kept Cause.IsWarning ReadsClear := by
  have grammar : Grammar.full.Gives Cause.IsWarning ReadsClear :=
    Grammar.gives_level Grammar.keeps_readable maxNesting
  have given := (Parser.gives_stage grammar (fun _ unsigned _ _ => .literal unsigned) first).run
    genuine
  rw [parseStage_command, stageCommand]
  unfold parseStage at clean
  split at clean
  · exact absurd (clean _ List.mem_cons_self) (by split <;> exact ne_false_of_eq_true rfl)
  dsimp only at clean
  generalize Parser.stage first _ = o at given clean ⊢
  obtain ⟨result, rest, raised⟩ := o
  have warns {issues : List Issue}
      (h : ∀ d ∈ issues.map (stage.diagnose stop), d.isError = false) :
      ∀ issue ∈ issues, issue.cause.IsWarning := fun issue member =>
    isWarning_of_diagnose (h _ (List.mem_map_of_mem member))
  cases result with
  | error issue =>
    have all := warns clean
    have error := (given fun issue member => all issue (List.mem_append_left _ member)).error rfl
    exact absurd (all issue (List.mem_append_right _ List.mem_cons_self)) error
  | ok command =>
    have kept := (given (warns clean)).value rfl
    cases command with
    | none =>
      obtain ⟨cause, warning, error⟩ := kept.error rfl
      exact absurd warning error
    | some c => exact ⟨c, rfl, kept.command c rfl⟩

/-- What is raised is all that is kept if fewer diagnostics are kept than there may be. -/
theorem raised_eq_kept {s : Session} (complete : s.kept.length < s.options.maxDiagnostics) :
    s.kept = s.raised := by
  rw [kept, List.length_take] at complete
  rw [kept, List.take_of_length_le]
  omega

/-- The first of some stages gives the first command, if it gives one. -/
theorem commands_ne_nil {s : Session} {first : Bool} {stage : Stage} {more : List Stage} {c : Command}
    (found : (parseStage s.stop first stage).1 = some c) :
    (s.parseStages first (stage :: more)).1 ≠ [] := by
  rcases goesOn_or_stopped s first stage with goesOn | ⟨off, error⟩
  · rw [parseStages_goesOn s first stage more goesOn, found]
    exact List.cons_ne_nil c _
  · rw [parseStages_stopped s first stage more off error, found]
    exact List.cons_ne_nil c []

/-- Every command of a session without errors is built without errors, and there is one. -/
theorem kept_parseStages {s : Session} {more : List Stage} (genuine : ∀ s ∈ more, Genuine s.lexemes)
    (some : more ≠ []) (clean : ∀ d ∈ (s.parseStages true more).2.raised, d.isError = false) :
    (s.parseStages true more).1 ≠ [] ∧
      ∀ c ∈ (s.parseStages true more).1, c.Kept Cause.IsWarning ReadsClear := by
  constructor
  · cases more with
    | nil => exact absurd rfl some
    | cons stage more =>
      obtain ⟨c, found, -⟩ := exists_command_of_clean (genuine stage List.mem_cons_self)
        fun d inside => clean d (mem_raised_of_mem_parseStage inside more)
      exact commands_ne_nil found
  · intro c member
    obtain ⟨first, stage, inside, found, raised⟩ := exists_stage_of_mem member
    obtain ⟨c', found', kept⟩ := exists_command_of_clean (genuine stage inside)
      fun d issue => clean d (raised d issue)
    rw [found] at found'
    cases found'
    exact kept

end Session

/-- Every command of a query without errors is built without errors, and there is one. -/
theorem kept_parseWith {options : ParseOptions} {text : String}
    (success : (parseWith options text).isSuccess = true)
    (complete : (parseWith options text).diagnostics.length < options.maxDiagnostics) :
    (parseWith options text).query.commands ≠ [] ∧
      ∀ c ∈ (parseWith options text).query.commands, c.Kept Cause.IsWarning ReadsClear := by
  let s := Session.ofTokens (scan text) options
  let run := s.parseStages true (stages s.tokens)
  have result : parseWith options text = Session.result run := Session.query_eq s
  rw [result] at success complete ⊢
  have same : run.2.options = options := (s.parseStages_extends true _).1
  have all : run.2.kept = run.2.raised := by
    apply Session.raised_eq_kept
    rw [same, ← Diagnostic.length_sorted]
    exact complete
  have clean : ∀ d ∈ run.2.raised, d.isError = false := by
    rw [Session.isSuccess_result, Bool.not_eq_true', Session.hasErrors, all] at success
    simpa using success
  have some : stages s.tokens ≠ [] := by
    have runs := splitPipes_ne_nil (s.tokens.map Token.toLexeme)
    rw [← lexemes_stages] at runs
    exact mt (congrArg (List.map Stage.lexemes)) runs
  exact Session.kept_parseStages (fun stage member => Session.genuine_of_mem_stages member) some clean

/-- A query that is parsed without errors is what its canonical text is parsed into, without errors
    again, unless something in that text is taken for something else. -/
theorem parseWith_canonical {options : ParseOptions} {text : String}
    (success : (parseWith options text).isSuccess = true)
    (complete : (parseWith options text).diagnostics.length < options.maxDiagnostics)
    (clear : (parseWith options text).query.IsClear) (again : ParseOptions) :
    (parseWith again (parseWith options text).query.text).isSuccess = true ∧
      (parseWith again (parseWith options text).query.text).query = (parseWith options text).query := by
  obtain ⟨nonempty, kept⟩ := kept_parseWith success complete
  have readable : ∀ c ∈ (parseWith options text).query.commands, c.IsReadable := fun c member =>
    (kept c member).isReadable (clear c member)
  exact (parseWith_readable nonempty readable again).symm

/-- A sum in parentheses and a quoted keyword come back from the text that is written for them. -/
theorem parseWith_canonical_sum :
    (parseWith {} "where (a + b) > 1 | fields - c, `in`").query =
        ⟨[.filter (.binary .greater (.binary .add (.field "a") (.field "b")) (.literal (.int 1))),
          .fields true ["c", "in"]]⟩ ∧
      (parseWith {} "where (a + b) > 1 | fields - c, `in`").query.IsClear ∧
      (parseWith {} (parseWith {} "where (a + b) > 1 | fields - c, `in`").query.text).query =
        (parseWith {} "where (a + b) > 1 | fields - c, `in`").query := by
  have condition : Buildable (.binary .greater (.binary .add (.field "a") (.field "b"))
      (.literal (.int 1))) := by
    refine .binary nofun (.binary nofun (.field_letter 'a') (.field_letter 'b')) (.int ?_ ?_)
    · decide
    · exact Nat.le_of_lt_succ (by decide)
  have names : AreFields ["c", "in"] := by
    refine ⟨List.cons_ne_nil _ _, ?_⟩
    intro name member _
    simp only [List.mem_cons, List.not_mem_nil, or_false] at member
    rcases member with rfl | rfl <;> rfl
  have readable : ∀ c ∈ [Command.filter (.binary .greater (.binary .add (.field "a") (.field "b"))
      (.literal (.int 1))), .fields true ["c", "in"]], c.IsReadable := by
    refine List.forall_mem_cons.mpr ⟨⟨condition.readable .other, by decide⟩, ?_⟩
    exact List.forall_mem_singleton.mpr names
  have parsed := parseWith_readable (q := ⟨_⟩) (List.cons_ne_nil _ _) readable {}
  have run : Query.text ⟨[.filter (.binary .greater (.binary .add (.field "a") (.field "b"))
        (.literal (.int 1))), .fields true ["c", "in"]]⟩ = "where (a + b) > 1 | fields - c, `in`" ∧
      (parseWith {} "where (a + b) > 1 | fields - c, `in`").diagnostics.length < 100 := by
    decide +kernel
  obtain ⟨written, complete⟩ := run
  rw [written] at parsed
  have clear : (parseWith {} "where (a + b) > 1 | fields - c, `in`").query.IsClear := by
    rw [parsed.1]
    exact fun c member => (readable c member).isClear
  exact ⟨parsed.1, clear, (parseWith_canonical parsed.2 complete clear {}).2⟩

/-- The right side of `like` may be a sum.  Its canonical text is a call of `like`. -/
theorem parse_like_sum :
    (parse "where a like b + c").isSuccess = true ∧
      (parse (parse "where a like b + c").query.text).isSuccess = false := by
  decide +kernel

end PipedQuery
