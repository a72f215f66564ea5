import PipedQuery.Proofs.Cursor.Discipline
import PipedQuery.Proofs.Pipeline.Truncation

/-!
# A query read in one pass

The loop that reads a query in one pass gives what the stages give that the query is cut into before
(`Cursor.parseWith_eq`), and so does reading a single expression (`Cursor.parseExpression_eq`).

While both are running, the cursor follows the session (`Cursor.Follows`): it has the same tokens, end
and options, and the same diagnostics are kept.  A step of the loop reads a command, drops what is left
of its stage and passes the pipe, and the session has then taken the stage (`Cursor.Follows.behind`).
What is found in a stage is counted from its end, at the cursor from the end of the query, and both
name the same token (`Cursor.diagnose_before`).
-/

namespace PipedQuery

/-! Stages of the tokens at a cursor. -/

/-- What the stages behind a boundary are. -/
def stagesBeyond : List Token → List Stage
  | [] => []
  | _ :: ts => stages ts

/-- The first stage ends at the first pipe. -/
theorem stages_eq (ts : List Token) :
    stages ts = ⟨ts.takeWhile fun t => !t.isPipe, (ts.dropWhile fun t => !t.isPipe).head?⟩ ::
      stagesBeyond (ts.dropWhile fun t => !t.isPipe) := by
  induction ts with
  | nil => rfl
  | cons t ts ih =>
    rw [stages]
    cases pipe : t.isPipe with
    | true => simp [pipe, stagesBeyond]
    | false => simp [pipe, ih]

namespace Parser

/-- A stage parser reads the whole stage. -/
theorem rest_stage (first : Bool) (ls : List Lexeme) : (stage first ls).rest = [] := by
  simp only [stage, stageWith, bind_run, attempt_run, Outcome.bind_ok, Outcome.after]
  cases (command Grammar.full first ls).result with
  | error issue => rfl
  | ok c =>
    cases (command Grammar.full first ls).rest <;> rfl

end Parser

namespace Cursor

open PipedQuery.Parser

/-- Whether the cursor outside expressions has kept what the session has. -/
structure Follows (c : Cursor) (s : Session) : Prop where
  stop : c.stop = s.stop
  options : c.options = s.options
  diagnostics : c.diagnostics = s.kept
  depth : c.depth = 0

/-- The stage around the cursor. -/
def toStage (c : Cursor) : Stage := ⟨c.before, c.beyond.head?⟩

theorem stages_drop (c : Cursor) :
    stages (c.tokens.drop c.pos) = c.toStage :: stagesBeyond c.beyond := stages_eq _

/-- A place that is counted from the end is the same without some elements at the start. -/
theorem getElem?_from_end {α : Type} {l : List α} {k n : Nat} (inside : n ≤ (l.drop k).length) :
    l[l.length - n]? = (l.drop k)[(l.drop k).length - n]? := by
  rw [List.length_drop] at inside
  rw [List.getElem?_drop, List.length_drop]
  by_cases within : k ≤ l.length
  · congr 1
    omega
  · rw [List.getElem?_eq_none (by omega), List.getElem?_eq_none (by omega)]

/-- Places in a stage are counted from its end, and in a query from the end of all tokens. -/
theorem tokenAt_eq (c : Cursor) {n : Nat} (inside : n ≤ c.stage.length) :
    c.tokens[c.tokens.length - (n + c.beyond.length)]? = c.toStage.tokenAt n := by
  rw [stage, List.length_map] at inside
  have length : (c.tokens.drop c.pos).length = c.before.length + c.beyond.length := by
    rw [← before_append_beyond, List.length_append]
  have near : n + c.beyond.length ≤ (c.tokens.drop c.pos).length := by omega
  rw [getElem?_from_end near, length, Nat.add_sub_add_right, ← before_append_beyond,
    Stage.tokenAt]
  by_cases none : n = 0
  · rw [if_pos none, none, Nat.sub_zero, List.getElem?_append_right (Nat.le_refl _), Nat.sub_self,
      ← List.head?_eq_getElem?]
    rfl
  · rw [if_neg none, List.getElem?_append_left (by omega)]
    rfl

/-- An issue of the stage becomes the same diagnostic when it is counted in the query. -/
theorem diagnose_before (c : Cursor) {issue : Issue} (placed : issue.remaining ≤ c.stage.length) :
    c.diagnose (issue.before c.beyond.length) = c.toStage.diagnose c.stop issue :=
  congrArg (issue.cause.diagnose c.stop) (c.tokenAt_eq placed)

namespace Follows

variable {c : Cursor} {s : Session} (h : c.Follows s)
include h

theorem hasErrors : c.hasErrors = s.hasErrors :=
  congrArg (List.any · Diagnostic.isError) h.diagnostics

/-- Issues that become the same diagnostics are kept alike. -/
theorem reports {issues : List Issue} {ds : List Diagnostic} (same : issues.map c.diagnose = ds) :
    (c.reports issues).Follows (s.raise ds) where
  stop := h.stop
  options := h.options
  depth := h.depth
  diagnostics := by
    rw [Session.kept_raise, ← same, List.foldl_map, ← h.options, ← h.diagnostics]
    rfl

theorem report {issue : Issue} {d : Diagnostic} (same : c.diagnose issue = d) :
    (c.report issue).Follows (s.raise [d]) := by
  have one : (c.reports [issue]).Follows (s.raise [d]) :=
    h.reports (by rw [List.map_singleton, same])
  exact one

/-- What is passed over makes no difference. -/
theorem moved (pos : Nat) (tokens : List Token) : { c with pos }.Follows { s with tokens } :=
  ⟨h.stop, h.options, h.diagnostics, h.depth⟩

end Follows

/-! Stage after stage. -/

theorem toOption_after {α : Type} (c : Cursor) (o : StageOutcome α) :
    (c.after o).result.toOption = o.result.toOption := by
  rw [after]
  cases o.result <;> rfl

theorem atEnd_eq (c : Cursor) : c.atEnd = (c.tokens.drop c.pos).isEmpty := by
  rw [atEnd, next?, ← List.head?_drop]
  cases c.tokens.drop c.pos <;> rfl

/-- In front of some token the stage is not the empty one at the end. -/
theorem toStage_ne {c : Cursor} (inside : c.atEnd = false) : c.toStage ≠ ⟨[], none⟩ := by
  intro empty
  injection empty with before beyond
  rw [atEnd_eq, ← before_append_beyond, before, List.head?_eq_none_iff.mp beyond] at inside
  cases inside

section Steps

variable (c : Cursor) (first : Bool)

/-- Outside expressions a stage is read as it is by itself. -/
theorem mirrors_stage (outside : c.depth = 0) :
    c.Mirrors c.setting (stageWith grammar first c) (Parser.stage first c.stage) := by
  have refines := refines_stageWith (n := 0) c.refines_grammar first
  rw [outside] at refines
  exact refines.at_ c c.in_setting (Nat.zero_le _)

/-- Behind a stage the next boundary comes. -/
theorem drop_behind_stage (outside : c.depth = 0) :
    (stageWith grammar first c).rest.tokens.drop (stageWith grammar first c).rest.pos = c.beyond := by
  obtain ⟨seen, suffix, -⟩ := c.mirrors_stage first outside
  obtain ⟨stage, beyond⟩ := stage_after suffix
  rw [rest_stage, Cursor.stage, List.map_eq_nil_iff] at stage
  rw [seen, ← before_append_beyond, stage, beyond, List.nil_append]

variable {c}

/-- A stage gives the same command and the same diagnostics as by itself. -/
theorem Follows.behind {s : Session} (h : c.Follows s) (inside : c.atEnd = false) :
    (stageWith grammar first c).result.toOption.join = (Session.parseStage s.stop first c.toStage).1 ∧
      (stageWith grammar first c).rest.Follows (s.behind first c.toStage) := by
  obtain ⟨seen, -, within⟩ := c.mirrors_stage first h.depth
  rw [seen]
  constructor
  · have lexemes : c.toStage.lexemes = c.stage := rfl
    rw [Session.parseStage_command, stageCommand, toOption_after, lexemes]
  · rw [Session.behind, Session.parseStage_diagnostics_of_ne s.stop first (toStage_ne inside),
      ← h.stop]
    refine (h.moved _ s.tokens).reports ?_
    rw [List.map_map]
    exact List.map_congr_left fun issue member => c.diagnose_before (within.raised issue member)

/-! The main loop. -/

/-- An issue with nothing left stands at the end of the text. -/
theorem diagnose_end (c : Cursor) (cause : Cause) :
    c.diagnose ⟨cause, 0⟩ = cause.diagnose c.stop none := by
  rw [diagnose, Nat.sub_zero, List.getElem?_eq_none (Nat.le_refl _)]

/-- At the end there are no more commands. -/
theorem commands_atEnd (ends : c.atEnd = true) : c.commands first = ([], c) := by
  rw [commands, if_pos ends]

/-- The loop stops behind a stage where an error is kept, if it does not recover. -/
theorem commands_stopped (inside : c.atEnd = false)
    (off : (stageWith grammar first c).rest.options.recover = false)
    (found : (stageWith grammar first c).rest.hasErrors = true) :
    c.commands first =
      ((stageWith grammar first c).result.toOption.join.toList,
        (stageWith grammar first c).rest) := by
  rw [commands, if_neg (by simp [inside])]
  simp only [off, found, Bool.not_false, Bool.and_self, if_pos]

/-- The loop goes on behind a stage with what follows the next pipe. -/
theorem commands_goesOn (inside : c.atEnd = false)
    (goesOn : (stageWith grammar first c).rest.options.recover = true ∨
      (stageWith grammar first c).rest.hasErrors = false)
    (shorter : (Input.ahead (stageWith grammar first c).rest.passPipe).length <
      (Input.ahead c).length) :
    c.commands first =
      ((stageWith grammar first c).result.toOption.join.toList ++
          ((stageWith grammar first c).rest.passPipe.commands false).1,
        ((stageWith grammar first c).rest.passPipe.commands false).2) := by
  have stays : (!(stageWith grammar first c).rest.options.recover &&
      (stageWith grammar first c).rest.hasErrors) = false := by
    rcases goesOn with recover | clean
    · rw [recover]
      rfl
    · rw [clean, Bool.and_false]
  rw [commands, if_neg (by simp [inside])]
  simp only [stays, if_pos shorter, Bool.false_eq_true, if_false]

end Steps

section Boundary

variable {c : Cursor} {ts : List Token}

/-- At the end there is no pipe to pass. -/
theorem passPipe_of_nil (left : c.tokens.drop c.pos = []) : c.passPipe = c := by
  rw [passPipe, next?, ← List.head?_drop, left]
  rfl

/-- A pipe is passed, and noticed if nothing follows it. -/
theorem passPipe_of_cons {t : Token} (left : c.tokens.drop c.pos = t :: ts) (pipe : t.isPipe = true) :
    (c.advance 1).tokens.drop (c.advance 1).pos = ts ∧
      c.passPipe =
        if ts = [] then (c.advance 1).report ⟨.missing .nextCommand, 0⟩ else c.advance 1 := by
  have behind : (c.advance 1).tokens.drop (c.advance 1).pos = ts := by
    change c.tokens.drop (c.pos + 1) = ts
    rw [← List.drop_drop, left]
    rfl
  refine ⟨behind, ?_⟩
  rw [passPipe, next?, ← List.head?_drop, left]
  simp only [List.head?_cons, Option.any_some, pipe, if_true, atEnd_eq, behind, List.isEmpty_iff]

end Boundary

/-- Beyond a stage a pipe comes first. -/
theorem head?_beyond (c : Cursor) {t : Token} {ts : List Token} (found : c.beyond = t :: ts) :
    t.isPipe = true := by
  have stops := List.head?_dropWhile_not (fun t : Token => !t.isPipe) (c.tokens.drop c.pos)
  rw [← beyond, found] at stops
  simpa using stops

/-- In front of a boundary, something is passed over up to behind the next pipe. -/
theorem length_passPipe_lt {c c' : Cursor} (left : c'.tokens.drop c'.pos = c.beyond)
    (inside : c.atEnd = false) : (Input.ahead c'.passPipe).length < (Input.ahead c).length := by
  have ahead (c : Cursor) : (Input.ahead c).length = (c.tokens.drop c.pos).length := List.length_map _
  have some : 0 < (Input.ahead c).length := by
    rw [ahead, List.length_pos_iff]
    intro none
    rw [atEnd_eq, none] at inside
    cases inside
  have whole := c.length_ahead
  cases found : c.beyond with
  | nil =>
    rw [found] at left
    rw [passPipe_of_nil left, ahead, left]
    exact some
  | cons t ts =>
    rw [found] at left whole
    obtain ⟨behind, passed⟩ := passPipe_of_cons left (c.head?_beyond found)
    have fewer : (Input.ahead c'.passPipe).length = ts.length := by
      rw [passed, ← behind]
      split <;> exact ahead _
    rw [List.length_cons] at whole
    omega

/-- Whether two runs have given the same commands and kept the same diagnostics. -/
structure SameRun (run : List Command × Cursor) (run' : List Command × Session) : Prop where
  commands : run.1 = run'.1
  follows : run.2.Follows run'.2

variable {c c' : Cursor} {s : Session}

/-- Behind a stage both runs go on with the next one, or notice that it is missing. -/
theorem sameRun_beyond (h : c'.Follows s) (left : c'.tokens.drop c'.pos = c.beyond)
    (next : ∀ c'' : Cursor, ∀ s', c''.Follows s' → c''.atEnd = false →
      (c''.tokens.drop c''.pos).length < c.beyond.length →
      SameRun (c''.commands false) (s'.parseStages false (stages (c''.tokens.drop c''.pos)))) :
    SameRun (c'.passPipe.commands false) (s.parseStages false (stagesBeyond c.beyond)) := by
  cases found : c.beyond with
  | nil =>
    rw [found] at left
    rw [passPipe_of_nil left, commands_atEnd false (by rw [atEnd_eq, left]; rfl)]
    exact ⟨rfl, h⟩
  | cons t ts =>
    rw [found] at left
    obtain ⟨behind, passed⟩ := passPipe_of_cons left (c.head?_beyond found)
    have moved : (c'.advance 1).Follows s := h.moved (c'.pos + 1) s.tokens
    rw [passed, stagesBeyond]
    cases ts with
    | nil =>
      have ends : ((c'.advance 1).report ⟨.missing .nextCommand, 0⟩).atEnd = true := by
        rw [atEnd_eq]
        exact congrArg List.isEmpty behind
      rw [if_pos rfl, commands_atEnd false ends, Session.parseStages_last]
      exact ⟨rfl, moved.report (by rw [diagnose_end, moved.stop]; rfl)⟩
    | cons u us =>
      rw [if_neg (List.cons_ne_nil u us), ← behind]
      refine next _ _ moved (by rw [atEnd_eq, behind]; rfl) ?_
      rw [behind, found]
      exact Nat.lt_succ_self _

/-- The loop over the tokens does what the parse of all stages does. -/
theorem sameRun_commands (h : c.Follows s) (inside : c.atEnd = false) (first : Bool) :
    SameRun (c.commands first) (s.parseStages first (stages (c.tokens.drop c.pos))) := by
  induction length : (c.tokens.drop c.pos).length using Nat.strongRecOn generalizing c s first with
  | ind n ih =>
    obtain ⟨command, follows⟩ := h.behind first inside
    have left := c.drop_behind_stage first h.depth
    have short : c.beyond.length ≤ (c.tokens.drop c.pos).length :=
      (List.dropWhile_suffix _).length_le
    rw [stages_drop]
    rcases Session.goesOn_or_stopped s first c.toStage with goesOn | ⟨off, found⟩
    · have goesOn' : (stageWith grammar first c).rest.options.recover = true ∨
          (stageWith grammar first c).rest.hasErrors = false := by
        rwa [follows.options, follows.hasErrors]
      have beyond := sameRun_beyond follows left fun c'' s' h' inside' fewer =>
        ih _ (length ▸ Nat.lt_of_lt_of_le fewer short) h' inside' false rfl
      rw [Session.parseStages_goesOn s first c.toStage _ goesOn,
        commands_goesOn first inside goesOn' (length_passPipe_lt left inside)]
      exact ⟨by rw [command, beyond.commands], beyond.follows⟩
    · have off' := follows.options.symm ▸ off
      rw [Session.parseStages_stopped s first c.toStage _ off found,
        commands_stopped first inside off' (follows.hasErrors.trans found)]
      exact ⟨congrArg Option.toList command, follows⟩

/-! Whole texts. -/

/-- A cursor and a session start alike. -/
theorem follows_ofTokens (tokens : List Token) (options : ParseOptions) :
    (ofTokens tokens options).Follows (Session.ofTokens tokens options) := ⟨rfl, rfl, rfl, rfl⟩

/-- A query is the same, read in one pass or stage by stage. -/
theorem Follows.query (h : c.Follows s) (left : s.tokens = c.tokens.drop c.pos) :
    c.query = s.query := by
  have same {run : List Command × Cursor} {run' : List Command × Session} (h : SameRun run run') :
      (⟨⟨run.1⟩, Diagnostic.sorted run.2.diagnostics⟩ : ParseResult) = Session.result run' := by
    rw [Session.result, h.commands, h.follows.diagnostics]
  rw [Cursor.query, Session.query_eq, left]
  cases inside : c.atEnd with
  | false => exact same (sameRun_commands h inside true)
  | true =>
    have none : c.tokens.drop c.pos = [] := by rwa [atEnd_eq, List.isEmpty_iff] at inside
    have ends : (c.report ⟨.missing .firstCommand, 0⟩).atEnd = true := inside
    have run : SameRun ((c.report ⟨.missing .firstCommand, 0⟩).commands true)
        (s.parseStages true (stages [])) := by
      rw [commands_atEnd true ends, Session.parseStages_last]
      exact ⟨rfl, h.report (by rw [diagnose_end, h.stop]; rfl)⟩
    rw [none]
    exact same run

theorem Follows.errors (h : c.Follows s) : c.errors = s.errors := by
  rw [Cursor.errors, Session.errors, h.diagnostics]

/-- A parser that keeps to the stage does what the session makes of it. -/
theorem Follows.run {α : Type} {a : Parser Cursor α} {p : StageParser α} (h : c.Follows s)
    (left : s.tokens = c.tokens.drop c.pos) (mirrors : c.Mirrors c.setting (a c) (p c.stage)) :
    (s.run p).1 = (a c).result.mapError c.diagnose ∧ (a c).rest.Follows (s.run p).2 ∧
      (s.run p).2.tokens = (a c).rest.tokens.drop (a c).rest.pos := by
  obtain ⟨seen, suffix, within⟩ := mirrors
  have stage : s.stage = c.toStage := by
    rw [Session.stage, left]
    rfl
  have length : c.toStage.tokens.length = c.stage.length := (List.length_map _).symm
  have raised : (p c.stage).raised.map (c.diagnose ∘ Issue.before c.beyond.length) =
      (p c.stage).raised.map (c.toStage.diagnose s.stop) := by
    rw [← h.stop]
    exact List.map_congr_left fun issue member => c.diagnose_before (within.raised issue member)
  rw [seen, Session.run, stage, length]
  refine ⟨?_, (h.moved _ _).reports ((List.map_map ..).trans raised), ?_⟩
  · have result := within.error
    change (p c.stage).result.mapError _ = ((p c.stage).result.mapError _).mapError _
    cases found : (p c.stage).result with
    | ok x => rfl
    | error issue =>
      have same := c.diagnose_before (result issue found)
      rw [h.stop] at same
      exact congrArg Except.error same.symm
  · change s.tokens.drop _ = _
    rw [left, List.drop_drop]
    rfl

/-- An issue at the place of the cursor is that of the next token. -/
theorem diagnose_ahead {t : Token} {ts : List Token} (c : Cursor) (cause : Cause)
    (left : c.tokens.drop c.pos = t :: ts) :
    c.diagnose ⟨cause, (Input.ahead c).length⟩ = cause.diagnose c.stop (some t) := by
  have length : (Input.ahead c).length = (c.tokens.drop c.pos).length := List.length_map _
  rw [diagnose, length, getElem?_from_end (Nat.le_refl _), Nat.sub_self, left]
  rfl

/-- So is a single expression. -/
theorem Follows.standalone (h : c.Follows s) (left : s.tokens = c.tokens.drop c.pos) :
    c.standalone = s.standalone := by
  have refines := c.refines_grammar.expression
  rw [h.depth] at refines
  have mirrors := refines.at_ c c.in_setting (Nat.zero_le _)
  have place : (expression c).rest.diagnose = c.diagnose := by
    rw [expression_eq]
    rfl
  obtain ⟨result, follows, rest⟩ := h.run left mirrors
  change s.expression.1 = (expression c).result.mapError c.diagnose at result
  change (expression c).rest.Follows s.expression.2 at follows
  change s.expression.2.tokens = (expression c).rest.tokens.drop (expression c).rest.pos at rest
  rw [Cursor.standalone, Session.standalone]
  generalize expression c = o, s.expression = run at place result follows rest
  obtain ⟨issue | e, c', raised⟩ := o
  · obtain ⟨_, s'⟩ := run
    cases result
    exact congrArg Except.error (follows.report (congrFun place issue)).errors
  · obtain ⟨_, s'⟩ := run
    cases result
    dsimp only at follows rest ⊢
    rw [atEnd_eq, ← rest]
    cases found : s'.tokens with
    | nil =>
      rw [follows.hasErrors, follows.errors]
      rfl
    | cons t ts =>
      have noticed := c'.diagnose_ahead (.expected .expressionEnd) (rest.symm.trans found)
      rw [follows.stop] at noticed
      exact congrArg Except.error (follows.report noticed).errors

/-- Parsing in one pass is parsing stage by stage. -/
theorem parseWith_eq (options : ParseOptions) (text : String) :
    Cursor.parseWith options text = PipedQuery.parseWith options text :=
  (follows_ofTokens (scan text) options).query rfl

theorem parseExpression_eq (text : String) :
    Cursor.parseExpression text = PipedQuery.parseExpression text :=
  (follows_ofTokens (scan text) {}).standalone rfl

end Cursor

end PipedQuery
