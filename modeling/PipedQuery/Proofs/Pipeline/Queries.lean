import PipedQuery.Proofs.Command.Pipeless
import PipedQuery.Proofs.Command.Scan
import PipedQuery.Proofs.Grammar.Extractions
import PipedQuery.Proofs.Pipeline.Stages
import PipedQuery.Proofs.Pipeline.Standalone

/-!
# Parsing printed queries

The canonical text of a query of readable commands is parsed into that query, with warnings about
its patterns at most.
-/

namespace PipedQuery

open Scan

/-- The lexemes of several stages with pipes between them. -/
def pipeLexemes : List (List Lexeme) → List Lexeme
  | [] => []
  | [ls] => ls
  | ls :: more => ls ++ .mark .pipe :: pipeLexemes more

/-- Without a pipe there is one stage. -/
theorem splitPipes_of_pipeless {ls : List Lexeme} (pipeless : Pipeless ls) :
    splitPipes ls = [ls] := by
  induction ls with
  | nil => rfl
  | cons l ls ih =>
    have inside := List.forall_mem_cons.mp pipeless
    rw [splitPipes, if_neg inside.1, ih inside.2]

/-- Pipes cut joined stages apart again. -/
theorem splitPipes_pipeLexemes {stages : List (List Lexeme)} (nonempty : stages ≠ [])
    (pipeless : ∀ ls ∈ stages, Pipeless ls) : splitPipes (pipeLexemes stages) = stages := by
  fun_induction pipeLexemes stages with
  | case1 => exact absurd rfl nonempty
  | case2 ls => exact splitPipes_of_pipeless (pipeless ls (by simp))
  | case3 ls more others ih =>
    rw [splitPipes_append_pipe, splitPipes_of_pipeless (pipeless ls (by simp)),
      ih others fun ls' member => pipeless ls' (by simp [member]), List.singleton_append]

/-- A pipe with blanks around it keeps what stands before it and behind it apart. -/
theorem reads_pipe {cs rest : List Char} {ls more : List Lexeme} (here : Reads cs ls)
    (others : Reads rest more) :
    Reads (cs ++ ' ' :: '|' :: ' ' :: rest) (ls ++ .mark .pipe :: more) :=
  here.append (others.blank.mark (show plainMark? '|' = some .pipe from rfl)).blank
    (stops_cons.mpr rfl)

/-- The lexemes of the canonical text. -/
def Query.lexemes (q : Query) : List Lexeme := pipeLexemes (q.commands.map Command.lexemes)

/-- The canonical text of readable commands scans as their lexemes with pipes between them. -/
theorem Query.reads {q : Query} (readable : ∀ c ∈ q.commands, c.IsReadable) :
    Reads q.text.toList q.lexemes := by
  obtain ⟨commands⟩ := q
  have pipe : (" | " : String).toList = [' ', '|', ' '] := rfl
  rw [Query.text, Query.lexemes, String.toList_intercalate, List.map_map, pipe]
  induction commands with
  | nil => exact reads_nil
  | cons c commands ih =>
    have here := (readable c (by simp)).reads
    have others := ih fun c' member => readable c' (by simp [member])
    cases commands with
    | nil => simpa [pipeLexemes] using here
    | cons c' commands =>
      simpa [pipeLexemes, List.intercalate_cons_cons] using reads_pipe here others

theorem Command.IsReadable.lexemes_ne_nil {c : Command} (readable : c.IsReadable) :
    c.lexemes ≠ [] := by
  intro empty
  obtain ⟨raised, found, -⟩ := Parser.passes_command readable true
  rw [empty] at found
  cases congrArg Outcome.result found

namespace Session

/-- A warning is not an error, wherever it is found. -/
theorem isError_diagnose {issue : Issue} (warning : issue.cause.IsWarning) (stage : Stage)
    (stop : Position) : (stage.diagnose stop issue).isError = false := by
  have kind : (stage.diagnose stop issue).kind = .invalidPattern := by
    unfold Stage.diagnose Cause.diagnose
    split <;> exact warning _
  simp [Diagnostic.isError, Diagnostic.severity, kind, DiagnosticKind.severity]

/-- A stage that is a readable command gives that command, and no errors. -/
theorem parseStage_readable {c : Command} (readable : c.IsReadable) {stage : Stage}
    (written : stage.lexemes = c.lexemes) (stop : Position) (first : Bool) :
    ∃ ds, parseStage stop first stage = (some c, ds) ∧ ∀ d ∈ ds, d.isError = false := by
  obtain ⟨raised, found, warnings⟩ := Parser.passes_stage readable first
  refine ⟨raised.map (stage.diagnose stop), ?_, ?_⟩
  · unfold parseStage
    split
    · exact absurd written.symm readable.lexemes_ne_nil
    · rw [written, found]
  · intro d member
    obtain ⟨issue, raised_issue, rfl⟩ := List.mem_map.mp member
    exact isError_diagnose (warnings issue raised_issue) stage stop

theorem hasErrors_of_clean {s : Session} (clean : ∀ d ∈ s.raised, d.isError = false) :
    s.hasErrors = false := by
  simp only [hasErrors, List.any_eq_false, Bool.not_eq_true]
  exact fun d member => clean d (List.mem_of_mem_take member)

/-- Stages that are readable commands give these commands, and no errors. -/
theorem parseStages_readable {commands : List Command} (readable : ∀ c ∈ commands, c.IsReadable)
    {stages : List Stage} (written : stages.map Stage.lexemes = commands.map Command.lexemes)
    {s : Session} (clean : ∀ d ∈ s.raised, d.isError = false) (first : Bool) :
    ∃ s', s.parseStages first stages = (commands, s') ∧ ∀ d ∈ s'.raised, d.isError = false := by
  induction commands generalizing stages s first with
  | nil =>
    obtain rfl := List.map_eq_nil_iff.mp written
    exact ⟨s, rfl, clean⟩
  | cons c commands ih =>
    cases stages with
    | nil => cases written
    | cons stage stages =>
      obtain ⟨here, others⟩ := List.cons.inj written
      obtain ⟨ds, found, warnings⟩ := parseStage_readable (readable c (by simp)) here s.stop first
      have clean' : ∀ d ∈ (s.behind first stage).raised, d.isError = false := by
        rw [behind, found]
        exact fun d member => (List.mem_append.mp member).elim (clean d) (warnings d)
      obtain ⟨s', parsed, last⟩ := ih (fun c' member => readable c' (by simp [member])) others
        clean' false
      refine ⟨s', ?_, last⟩
      rw [parseStages_goesOn s first stage stages (.inr (hasErrors_of_clean clean')), parsed, found]
      rfl

end Session

/-- The stages of the canonical text of readable commands are the commands. -/
theorem Query.lexemes_stages_text {q : Query} (nonempty : q.commands ≠ [])
    (readable : ∀ c ∈ q.commands, c.IsReadable) (options : ParseOptions) :
    (stages (Session.ofTokens (scan q.text) options).tokens).map Stage.lexemes =
      q.commands.map Command.lexemes := by
  rw [lexemes_stages, tokens_ofTokens (Query.reads readable)]
  refine splitPipes_pipeLexemes (by simpa using nonempty) fun ls member => ?_
  obtain ⟨c, found, rfl⟩ := List.mem_map.mp member
  exact (readable c found).pipeless

/-- A query of readable commands is what its canonical text is parsed into. -/
theorem parseWith_readable {q : Query} (nonempty : q.commands ≠ [])
    (readable : ∀ c ∈ q.commands, c.IsReadable) (options : ParseOptions) :
    (parseWith options q.text).query = q ∧ (parseWith options q.text).isSuccess = true := by
  have noErrors : ∀ d ∈ (Session.ofTokens (scan q.text) options).raised, d.isError = false := by
    have clean : (Session.ofTokens (scan q.text) options).raised = [] :=
      lexicalDiagnostics_scan (Query.reads readable)
    rw [clean]
    exact nofun
  obtain ⟨s, parsed, last⟩ := Session.parseStages_readable readable
    (Query.lexemes_stages_text nonempty readable options) noErrors true
  rw [parseWith, Session.query_eq, Session.isSuccess_result, parsed,
    Session.hasErrors_of_clean last]
  exact ⟨rfl, rfl⟩

end PipedQuery
