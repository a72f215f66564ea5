import PipedQuery.Pipeline
import PipedQuery.Proofs.Diagnostic.Order
import PipedQuery.Proofs.Parser.Run
import PipedQuery.Proofs.Scan.Lexemes

/-!
# Stages stand alone

With recovery, the commands of a query are those of its stages (`commands_parseWith`), each read
from the lexemes between two pipes and from nothing else.
-/

namespace PipedQuery

/-- The lexemes between pipes.  There is one more run of them than there are pipes. -/
def splitPipes : List Lexeme → List (List Lexeme)
  | [] => [[]]
  | l :: ls =>
    if l.kind = .mark .pipe then [] :: splitPipes ls
    else match splitPipes ls with
      | [] => [[l]]
      | s :: more => (l :: s) :: more

/-- The command of a stage, if it has one. -/
def stageCommand (first : Bool) (stage : List Lexeme) : Option Command :=
  (Parser.stage first stage).result.toOption.join

/-- The commands of some stages, of which the first one starts the query if `first` is set. -/
def stageCommands (first : Bool) : List (List Lexeme) → List Command
  | [] => []
  | stage :: more =>
    (stageCommand first stage).toList ++ more.flatMap fun s => (stageCommand false s).toList

theorem splitPipes_ne_nil (ls : List Lexeme) : splitPipes ls ≠ [] := by
  fun_cases splitPipes ls <;> simp

/-- Around a pipe the stages are those on its left and those on its right. -/
theorem splitPipes_append_pipe (ls more : List Lexeme) :
    splitPipes (ls ++ .mark .pipe :: more) = splitPipes ls ++ splitPipes more := by
  induction ls with
  | nil => simp [splitPipes]
  | cons l ls ih =>
    rw [List.cons_append, splitPipes, splitPipes, ih]
    split
    · rfl
    · have some := splitPipes_ne_nil ls
      cases found : splitPipes ls with
      | nil => exact absurd found some
      | cons s others => rfl

/-- Cutting the tokens at the pipes cuts the lexemes at the pipes. -/
theorem lexemes_stages (ts : List Token) :
    (stages ts).map Stage.lexemes = splitPipes (ts.map Token.toLexeme) := by
  induction ts with
  | nil => rfl
  | cons t ts ih =>
    rw [List.map_cons, splitPipes, stages, ← ih]
    by_cases pipe : t.kind = .mark .pipe
    · rw [if_pos (by simpa [Token.isPipe] using pipe), if_pos pipe]
      rfl
    · rw [if_neg (by simpa [Token.isPipe] using pipe), if_neg pipe]
      cases stages ts <;> rfl

@[simp] theorem stageCommand_nil (first : Bool) : stageCommand first [] = none := rfl

/-- Where no stage is the first of the query, each is parsed for itself. -/
theorem stageCommands_false (stages : List (List Lexeme)) :
    stageCommands false stages = stages.flatMap fun s => (stageCommand false s).toList := by
  cases stages <;> simp [stageCommands]

/-- The first stage of the query is the first stage of its first part. -/
theorem stageCommands_append (first : Bool) {stages : List (List Lexeme)} (h : stages ≠ [])
    (more : List (List Lexeme)) :
    stageCommands first (stages ++ more) =
      stageCommands first stages ++ stageCommands false more := by
  cases stages with
  | nil => exact absurd rfl h
  | cons stage others =>
    rw [stageCommands_false more, List.cons_append, stageCommands, stageCommands,
      List.flatMap_append, List.append_assoc]

namespace Session

/-- The command of a stage depends on its lexemes only, not on where they stand. -/
theorem parseStage_command (stop : Position) (first : Bool) (stage : Stage) :
    (parseStage stop first stage).1 = stageCommand first stage.lexemes := by
  unfold parseStage
  split
  · rfl
  · unfold stageCommand
    cases found : (Parser.stage first stage.lexemes).result <;> simp only [found] <;> rfl

/-- A stage parser gives the command if there is one, and makes issues of whatever is wrong. -/
theorem stage_result (first : Bool) (ls : List Lexeme) :
    (Parser.stage first ls).result = .ok (Parser.command Grammar.full first ls).result.toOption := by
  simp only [Parser.stage, Parser.stageWith, Parser.bind_run, Parser.attempt_run, Outcome.bind_ok,
    Outcome.after_result]
  cases (Parser.command Grammar.full first ls).result with
  | error issue => rfl
  | ok c =>
    by_cases finished : (Parser.command Grammar.full first ls).rest.isEmpty = true <;>
      simp [finished, Except.toOption]

/-- The command of a stage is what the command parser gives, whole or in part. -/
theorem stageCommand_eq (first : Bool) (ls : List Lexeme) :
    stageCommand first ls = (Parser.command Grammar.full first ls).result.toOption := by
  rw [stageCommand, stage_result]
  rfl

/-- The diagnostics of a stage are the issues that its parser raises, unless it is an empty one at
    the end. -/
theorem parseStage_diagnostics_of_ne (stop : Position) (first : Bool) {stage : Stage}
    (some : stage ≠ ⟨[], none⟩) :
    (parseStage stop first stage).2 =
      (Parser.stage first stage.lexemes).raised.map (stage.diagnose stop) := by
  unfold parseStage
  split
  · exact absurd rfl some
  · simp only [stage_result]

/-- A stage reports what the parsers raise in it. -/
theorem parseStage_diagnostics (stop : Position) (first : Bool) {stage : Stage}
    (nonempty : stage.lexemes ≠ []) :
    (parseStage stop first stage).2 =
      (Parser.stage first stage.lexemes).raised.map (stage.diagnose stop) :=
  parseStage_diagnostics_of_ne stop first fun empty => nonempty (empty ▸ rfl)

/-- A command is all that is made of its stage.  Whatever is left behind it is an issue. -/
theorem parseStage_of_command {stop : Position} {first : Bool} {stage : Stage} {c : Command}
    {rest : List Lexeme} {raised : List Issue}
    (read : Parser.command Grammar.full first stage.lexemes = ⟨.ok c, rest, raised⟩) :
    parseStage stop first stage = (some c,
      (raised ++ if rest = [] then [] else [(⟨.expected .stageEnd, rest.length⟩ : Issue)]).map
        (stage.diagnose stop)) := by
  have nonempty : stage.lexemes ≠ [] := by
    intro empty
    rw [empty] at read
    cases congrArg Outcome.result read
  refine Prod.ext ?_ ?_
  · rw [parseStage_command, stageCommand_eq, read]
    rfl
  · rw [parseStage_diagnostics stop first nonempty]
    cases rest <;> simp [Parser.stage, Parser.stageWith, read]

/-- What is made of some commands and the session behind them. -/
def result (run : List Command × Session) : ParseResult :=
  ⟨⟨run.1⟩, Diagnostic.sorted run.2.kept⟩

theorem query_eq (s : Session) : s.query = result (s.parseStages true (stages s.tokens)) := rfl

theorem isSuccess_result (run : List Command × Session) :
    (result run).isSuccess = !run.2.hasErrors := by
  rw [ParseResult.isSuccess, result, Diagnostic.any_sorted, hasErrors]

/-- The session behind a stage. -/
def behind (s : Session) (first : Bool) (stage : Stage) : Session :=
  s.raise (parseStage s.stop first stage).2

section Steps

variable (s : Session) (first : Bool) (stage : Stage) (more : List Stage)

/-- With recovery, or as long as there is no error, the remaining stages are parsed as well. -/
theorem parseStages_goesOn
    (goesOn : s.options.recover = true ∨ (s.behind first stage).hasErrors = false) :
    s.parseStages first (stage :: more) =
      ((parseStage s.stop first stage).1.toList ++
          ((s.behind first stage).parseStages false more).1,
        ((s.behind first stage).parseStages false more).2) := by
  have options : (s.raise (parseStage s.stop first stage).2).options = s.options := rfl
  rw [behind] at goesOn ⊢
  simp only [parseStages, options]
  rcases goesOn with recover | clean
  · simp [recover]
  · simp [clean]

/-- Without recovery, nothing behind an error is parsed. -/
theorem parseStages_stopped (off : s.options.recover = false)
    (found : (s.behind first stage).hasErrors = true) :
    s.parseStages first (stage :: more) =
      ((parseStage s.stop first stage).1.toList, s.behind first stage) := by
  have options : (s.raise (parseStage s.stop first stage).2).options = s.options := rfl
  rw [behind] at found ⊢
  simp [parseStages, options, off, found]

/-- Without any tokens a command is missing. -/
theorem parseStages_last :
    s.parseStages first (stages []) =
      ([], s.raise [(Cause.missing (if first then .firstCommand else .nextCommand)).diagnose s.stop
        none]) := by
  simp only [stages, parseStages, parseStage, Option.toList_none, List.append_nil, ite_self]

/-- Behind a stage a session goes on or stops. -/
theorem goesOn_or_stopped :
    (s.options.recover = true ∨ (s.behind first stage).hasErrors = false) ∨
      (s.options.recover = false ∧ (s.behind first stage).hasErrors = true) := by
  cases s.options.recover <;> cases (s.behind first stage).hasErrors <;> simp

/-- Parsing keeps the options, and what was raised before comes first. -/
theorem parseStages_extends :
    (s.parseStages first more).2.options = s.options ∧
      s.raised <+: (s.parseStages first more).2.raised := by
  induction more generalizing s first with
  | nil => exact ⟨rfl, List.prefix_refl _⟩
  | cons stage more ih =>
    have here : s.raised <+: (s.behind first stage).raised := List.prefix_append _ _
    rcases goesOn_or_stopped s first stage with goesOn | ⟨off, found⟩
    · rw [parseStages_goesOn s first stage more goesOn]
      obtain ⟨options, raised⟩ := ih (s.behind first stage) false
      exact ⟨options, here.trans raised⟩
    · rw [parseStages_stopped s first stage more off found]
      exact ⟨rfl, here⟩

/-- With recovery, the commands are those of all the stages. -/
theorem parseStages_commands (recover : s.options.recover = true) :
    (s.parseStages first more).1 = stageCommands first (more.map Stage.lexemes) := by
  induction more generalizing s first with
  | nil => rfl
  | cons stage more ih =>
    rw [parseStages_goesOn s first stage more (.inl recover), ih (s.behind first stage) false recover,
      parseStage_command, List.map_cons, stageCommands, stageCommands_false]

end Steps

end Session

/-- With recovery, the commands of a query are those of the stages that pipes cut its lexemes
    into. -/
theorem commands_parseWith {options : ParseOptions} (recover : options.recover = true)
    (text : String) :
    (parseWith options text).query.commands =
      stageCommands true
        (splitPipes ((Scan.lexemes text.toList).filter Lexeme.isSignificant)) := by
  rw [← significant_scan, ← lexemes_stages]
  exact Session.parseStages_commands _ true _ recover

end PipedQuery
