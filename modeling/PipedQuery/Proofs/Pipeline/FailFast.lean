import PipedQuery.Console.CommandLine
import PipedQuery.Proofs.Pipeline.Stages

/-!
# Stopping at the first error

A parse that stops at an error goes along with one that recovers from errors until it breaks off.
So it gives the first ones of the same commands and some of the same diagnostics, and it succeeds on
the same texts (`failFast_agrees`).
-/

namespace PipedQuery

namespace Session

/-- The session, going on after errors or not. -/
def recovering (s : Session) (recover : Bool) : Session :=
  { s with options := { s.options with recover } }

theorem behind_recovering (s : Session) (first : Bool) (stage : Stage) (recover : Bool) :
    (s.recovering recover).behind first stage = (s.behind first stage).recovering recover := rfl

/-- How a run that stops at an error lies to one that goes on: what it gives comes first there, and
    is all of it unless an error was kept. -/
structure StopsWithin (f r : List Command × Session) : Prop where
  limit : f.2.options.maxDiagnostics = r.2.options.maxDiagnostics
  commands : f.1 <+: r.1
  raised : f.2.raised <+: r.2.raised
  whole : f.2.hasErrors = false → f.1 = r.1 ∧ f.2.raised = r.2.raised

/-- Stopping at the first broken command and going on behind it are in step up to that command. -/
theorem stopsWithin_parseStages (s : Session) (first : Bool) (more : List Stage) :
    StopsWithin ((s.recovering false).parseStages first more)
      ((s.recovering true).parseStages first more) := by
  induction more generalizing s first with
  | nil => exact ⟨rfl, List.prefix_refl _, List.prefix_refl _, fun _ => ⟨rfl, rfl⟩⟩
  | cons stage more ih =>
    rw [parseStages_goesOn (s.recovering true) first stage more (.inl rfl), behind_recovering]
    cases found : ((s.behind first stage).recovering false).hasErrors with
    | true =>
      obtain ⟨options, raised⟩ :=
        parseStages_extends ((s.behind first stage).recovering true) false more
      rw [parseStages_stopped (s.recovering false) first stage more rfl found]
      refine ⟨(congrArg ParseOptions.maxDiagnostics options).symm, List.prefix_append _ _, raised,
        fun clean => ?_⟩
      cases found.symm.trans clean
    | false =>
      have goOn := ih (s.behind first stage) false
      rw [parseStages_goesOn (s.recovering false) first stage more (.inr found), behind_recovering]
      refine ⟨goOn.limit, (List.prefix_append_right_inj _).mpr goOn.commands, goOn.raised,
        fun clean => ?_⟩
      obtain ⟨commands, raised⟩ := goOn.whole clean
      exact ⟨congrArg (_ ++ ·) commands, raised⟩

namespace StopsWithin

variable {f r : List Command × Session}

/-- What is kept up to the stop is kept first without it. -/
theorem kept (stops : StopsWithin f r) : f.2.kept <+: r.2.kept := by
  obtain ⟨more, whole⟩ := stops.raised
  rw [Session.kept, Session.kept, stops.limit, ← whole, List.take_append]
  exact List.prefix_append _ _

/-- A run that has found no error has not been stopped. -/
theorem result_eq (stops : StopsWithin f r) (clean : f.2.hasErrors = false) :
    result f = result r := by
  obtain ⟨commands, raised⟩ := stops.whole clean
  rw [result, result, Session.kept, Session.kept, commands, raised, stops.limit]

/-- Whether a parse succeeds does not depend on what happens behind the first error. -/
theorem isSuccess_eq (stops : StopsWithin f r) :
    (result f).isSuccess = (result r).isSuccess := by
  cases found : f.2.hasErrors with
  | false => rw [stops.result_eq found]
  | true =>
    obtain ⟨d, member, error⟩ := List.any_eq_true.mp found
    have found' : r.2.hasErrors = true :=
      List.any_eq_true.mpr ⟨d, stops.kept.subset member, error⟩
    rw [isSuccess_result, isSuccess_result, found, found']

end StopsWithin

end Session

/-- The exit code of a check tells whether the query passed. -/
theorem CommandLine.code_run_check {args : List String} {query : Option String}
    {format : Printout.CheckFormat} {failFast : Bool}
    (asked : request? ⟨[], []⟩ args = some (.check query format failFast)) (input : ByteArray) :
    (run args input).code =
      match theQuery input query with
      | .ok text => if (parseWith { recover := !failFast } text).isSuccess then 0 else 1
      | .error _ => 1 := by
  rw [run, asked]
  cases found : theQuery input query with
  | ok text =>
    have given : answer input (.check query format failFast) =
        .ok (.check text format failFast) := by
      rw [answer, found]
      rfl
    simp only [given]
    rfl
  | error message =>
    have given : answer input (.check query format failFast) = .error message := by
      rw [answer, found]
      rfl
    simp only [given]
    rfl

/-- A parse that stops at the first error succeeds on the same texts as one that recovers from
    errors.  Its commands are the first ones, its diagnostics are some of the others, in their
    order, and on a success there is no difference.  So a check that fails fast and one that does not
    exit with the same code. -/
theorem failFast_agrees :
    (∀ (text : String) (m : Nat),
      let r := parseWith { recover := true, maxDiagnostics := m } text
      let f := parseWith { recover := false, maxDiagnostics := m } text
      f.isSuccess = r.isSuccess ∧ f.query.commands <+: r.query.commands ∧
        f.diagnostics.Sublist r.diagnostics ∧ (r.isSuccess = true → f = r)) ∧
    ∀ (args args' : List String) (query : Option String) (format : Printout.CheckFormat)
      (input : ByteArray),
      CommandLine.request? ⟨[], []⟩ args = some (.check query format false) →
      CommandLine.request? ⟨[], []⟩ args' = some (.check query format true) →
      (CommandLine.run args' input).code = (CommandLine.run args input).code := by
  have agree (text : String) (m : Nat) :=
    let s := Session.ofTokens (scan text) { maxDiagnostics := m }
    s.stopsWithin_parseStages true (stages s.tokens)
  refine ⟨fun text m => ?_, fun args args' query format input slow fast => ?_⟩
  · refine ⟨(agree text m).isSuccess_eq, (agree text m).commands,
      Diagnostic.sorted_sublist (agree text m).kept.sublist, fun success => ?_⟩
    apply (agree text m).result_eq
    have success' := (agree text m).isSuccess_eq.trans success
    rwa [Session.isSuccess_result, Bool.not_eq_true'] at success'
  · rw [CommandLine.code_run_check slow, CommandLine.code_run_check fast]
    cases CommandLine.theQuery input query with
    | error message => rfl
    | ok text =>
      have same : (parseWith { recover := false } text).isSuccess = (parse text).isSuccess :=
        (agree text 100).isSuccess_eq
      simp only [Bool.not_true, Bool.not_false, same]
      rfl

/-- A sound query and one with a broken stage. -/
theorem failFast_agrees_head :
    (parse "head 5").isSuccess = true ∧
      parseWith { recover := false } "head 5" = parse "head 5" ∧
      (CommandLine.run ["check", "--fail-fast", "where x = | head 5"] .empty).code =
        (CommandLine.run ["check", "where x = | head 5"] .empty).code := by
  have success : (parse "head 5").isSuccess = true := by decide +kernel
  refine ⟨success, (failFast_agrees.1 "head 5" 100).2.2.2 success, ?_⟩
  exact failFast_agrees.2 _ _ (some "where x = | head 5") .text _ rfl rfl

end PipedQuery
