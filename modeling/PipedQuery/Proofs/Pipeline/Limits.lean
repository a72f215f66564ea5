import PipedQuery.Console.Printout
import PipedQuery.Proofs.Pipeline.Queries

/-!
# The limit on diagnostics

A parse that recovers from errors finds the same things wrong with a text whatever its limit, and
keeps the first ones of them (`diagnostics_parseWith`).  As long as warnings do not use up the limit,
a success at the default limit is one at every higher limit (`isSuccess_iff_every_limit`).  Behind
enough warnings an error is lost, and the parse is a success all the same (`isSuccess_warned`).
-/

namespace PipedQuery

namespace Session

/-- Everything wrong with some stages, in the order of the stages. -/
def stageDiagnostics (stop : Position) (first : Bool) : List Stage → List Diagnostic
  | [] => []
  | stage :: more => (parseStage stop first stage).2 ++ stageDiagnostics stop false more

/-- With recovery, all that the stages report is raised in their order. -/
theorem parseStages_recover (s : Session) (recover : s.options.recover = true) (first : Bool)
    (more : List Stage) :
    (s.parseStages first more).2 = s.raise (stageDiagnostics s.stop first more) := by
  induction more generalizing s first with
  | nil => simp [parseStages, stageDiagnostics, raise]
  | cons stage more ih =>
    rw [parseStages_goesOn s first stage more (.inl recover), ih (s.behind first stage) recover]
    simp [behind, raise, stageDiagnostics]

end Session

/-- Everything wrong with a text, in the order in which it is found. -/
def findings (text : String) : List Diagnostic :=
  let s := Session.ofTokens (scan text) {}
  s.raised ++ Session.stageDiagnostics s.stop true (stages s.tokens)

variable {text : String}

/-- The diagnostics of a parse that recovers from errors are the first ones found. -/
theorem diagnostics_parseWith {options : ParseOptions} (recover : options.recover = true)
    (text : String) :
    (parseWith options text).diagnostics =
      Diagnostic.sorted ((findings text).take options.maxDiagnostics) := by
  rw [parseWith, Session.query_eq, Session.result]
  dsimp only
  rw [Session.parseStages_recover _ recover]
  rfl

/-- A parse succeeds where none of the findings that fit into the limit is an error. -/
theorem isSuccess_iff_findings (m : Nat) (text : String) :
    (parseWith { maxDiagnostics := m } text).isSuccess = true ↔
      ∀ d ∈ (findings text).take m, d.isError = false := by
  rw [ParseResult.isSuccess, diagnostics_parseWith rfl, Diagnostic.any_sorted, Bool.not_eq_true',
    List.any_eq_false]
  simp only [Bool.not_eq_true]

/-- The warnings of a success are all that is kept. -/
theorem length_warnings {r : ParseResult} (success : r.isSuccess = true) :
    r.warnings.length = r.diagnostics.length := by
  rw [ParseResult.isSuccess, Bool.not_eq_true', List.any_eq_false] at success
  rw [ParseResult.warnings, List.filter_eq_self.mpr fun d member => by simpa using success d member]

/-- Unless the parse of a text is a success with a hundred warnings, it is a success if and only if
    it is one at every higher limit.  The same goes for the query that it gives and for a check. -/
theorem isSuccess_iff_every_limit
    (room : (parse text).isSuccess = true → (parse text).warnings.length < 100)
    (format : Printout.CheckFormat) :
    let everywhere := ∀ m, 100 ≤ m → (parseWith { maxDiagnostics := m } text).isSuccess = true
    ((parse text).isSuccess = true ↔ everywhere) ∧
      ((parse text).toExcept = .ok (parse text).query ↔ everywhere) ∧
      ((Printout.check text format false).success = true ↔ everywhere) := by
  have iff : (parse text).isSuccess = true ↔
      ∀ m, 100 ≤ m → (parseWith { maxDiagnostics := m } text).isSuccess = true := by
    refine ⟨fun success m _ => ?_, fun everywhere => everywhere 100 (Nat.le_refl _)⟩
    have few : min 100 (findings text).length < 100 := by
      have kept := room success
      rwa [length_warnings success, parse, diagnostics_parseWith rfl, Diagnostic.length_sorted,
        List.length_take] at kept
    have all : (findings text).take 100 = findings text := List.take_of_length_le (by omega)
    have clean := (isSuccess_iff_findings 100 text).mp success
    rw [all] at clean
    exact (isSuccess_iff_findings m text).mpr fun d member => clean d (List.mem_of_mem_take member)
  refine ⟨iff, ?_, iff⟩
  rw [← iff, ParseResult.toExcept]
  split <;> simp_all

/-- A success with a warning. -/
theorem isSuccess_iff_every_limit_grok :
    (parse "grok a '' | head 5").isSuccess = true ∧
      (parse "grok a '' | head 5").warnings.length = 1 ∧
      ∀ m, 100 ≤ m → (parseWith { maxDiagnostics := m } "grok a '' | head 5").isSuccess = true := by
  have run : (parse "grok a '' | head 5").isSuccess = true ∧
      (parse "grok a '' | head 5").warnings.length = 1 := by
    decide +kernel
  obtain ⟨success, one⟩ := run
  have room : (parse "grok a '' | head 5").warnings.length < 100 := by rw [one]; decide
  exact ⟨success, one, (isSuccess_iff_every_limit (fun _ => room) .text).1.mp success⟩

section Warned

/-- A stage that gives a warning. -/
def warnedStage : Command := .extract ⟨.grok, "a", some "", []⟩

/-- Stages that give a warning each, and behind them a stage with an error. -/
def warnedText : Nat → String
  | 0 => "where"
  | n + 1 => "grok a '' | " ++ warnedText n

/-- The lexemes of the stages. -/
def warnedLexemes (n : Nat) : List (List Lexeme) :=
  List.replicate n warnedStage.lexemes ++ [[Keyword.where_.lexeme]]

theorem isReadable_warnedStage : warnedStage.IsReadable where
  source _ := rfl
  fields := ⟨"", rfl, rfl⟩

theorem reads_warnedText (n : Nat) :
    Scan.Reads (warnedText n).toList (pipeLexemes (warnedLexemes n)) := by
  induction n with
  | zero =>
    exact Scan.reads_keyword_as .where_ "where" rfl
  | succ n ih =>
    have here : Scan.Reads ("grok a ''").toList warnedStage.lexemes := by
      have name : writeName "a" = "a" := writeName_letter (c := 'a') rfl
      have written : warnedStage.text = "grok a ''" := by
        simp only [warnedStage, Command.text, Extraction.text, name]
        rfl
      rw [← written]
      exact isReadable_warnedStage.reads
    have text : (warnedText (n + 1)).toList =
        ("grok a ''").toList ++ ' ' :: '|' :: ' ' :: (warnedText n).toList := by
      rw [warnedText, String.toList_append]
      rfl
    rw [text]
    cases n <;> exact reads_pipe here ih

/-- No stage of the warned text contains a pipe. -/
theorem pipeless_warned {n : Nat} {ls : List Lexeme} (member : ls ∈ warnedLexemes n) :
    Pipeless ls := by
  rcases List.mem_append.mp member with grok | last
  · rw [List.eq_of_mem_replicate grok]
    exact isReadable_warnedStage.pipeless
  · rw [List.mem_singleton.mp last]
    exact List.forall_mem_singleton.mpr (by decide)

/-- All but the last diagnostic of the stages are warnings. -/
theorem stageDiagnostics_warned {n : Nat} {more : List Stage}
    (written : more.map Stage.lexemes = warnedLexemes n) (stop : Position) (first : Bool) :
    ∃ ws d, Session.stageDiagnostics stop first more = ws ++ [d] ∧ ws.length = n ∧
      (∀ w ∈ ws, w.isError = false) ∧ d.isError = true := by
  induction n generalizing more first with
  | zero =>
    obtain ⟨stage, rfl, lexemes⟩ := List.map_eq_singleton_iff.mp written
    have raised : (Parser.stage first stage.lexemes).raised = [⟨.missing .condition, 0⟩] := by
      rw [lexemes]
      cases first <;> rfl
    refine ⟨[], stage.diagnose stop ⟨.missing .condition, 0⟩, ?_, rfl, nofun, ?_⟩
    · rw [Session.stageDiagnostics, Session.parseStage_diagnostics, raised]
      · rfl
      · rw [lexemes]
        exact List.cons_ne_nil _ _
    · unfold Stage.diagnose Cause.diagnose
      split <;> rfl
  | succ n ih =>
    cases more with
    | nil => cases written
    | cons stage more =>
      obtain ⟨lexemes, others⟩ := List.cons.inj written
      obtain ⟨ws, d, later, length, warnings, error⟩ := ih others false
      have raised : (Parser.stage first stage.lexemes).raised = [⟨.noGrokField, 1⟩] := by
        rw [lexemes]
        cases first <;> decide +kernel
      refine ⟨stage.diagnose stop ⟨.noGrokField, 1⟩ :: ws, d, ?_, by simp [length], ?_, error⟩
      · rw [Session.stageDiagnostics, Session.parseStage_diagnostics, raised, later]
        · rfl
        · rw [lexemes]
          exact List.cons_ne_nil _ _
      · refine List.forall_mem_cons.mpr ⟨?_, warnings⟩
        exact Session.isError_diagnose (fun _ => rfl) stage stop

/-- Behind `n` warnings an error is only seen if more than `n` diagnostics are kept. -/
theorem isSuccess_warned (n m : Nat) :
    (parseWith { maxDiagnostics := m } (warnedText n)).isSuccess = true ↔ m ≤ n := by
  have reads := reads_warnedText n
  let s := Session.ofTokens (scan (warnedText n)) {}
  have written : (stages s.tokens).map Stage.lexemes = warnedLexemes n := by
    rw [lexemes_stages, tokens_ofTokens reads]
    exact splitPipes_pipeLexemes (by simp [warnedLexemes]) fun _ => pipeless_warned
  obtain ⟨ws, d, found, length, warnings, error⟩ := stageDiagnostics_warned written s.stop true
  have all : findings (warnedText n) = ws ++ [d] := by
    have clean : s.raised = [] := lexicalDiagnostics_scan reads
    change s.raised ++ _ = _
    rw [clean, List.nil_append, found]
  rw [isSuccess_iff_findings, all]
  constructor
  · intro clean
    by_contra more
    have whole : (ws ++ [d]).take m = ws ++ [d] := List.take_of_length_le (by simp; omega)
    rw [whole] at clean
    cases error.symm.trans (clean d (by simp))
  · intro few
    rw [List.take_append_of_le_length (by omega)]
    exact fun w member => warnings w (List.mem_of_mem_take member)

/-- A hundred warnings hide an error from a parse with the default limit. -/
theorem isSuccess_hundred_warnings :
    ¬((parse (warnedText 100)).isSuccess = true ↔
      ∀ m, 100 ≤ m → (parseWith { maxDiagnostics := m } (warnedText 100)).isSuccess = true) := by
  intro claimed
  have success : (parse (warnedText 100)).isSuccess = true :=
    (isSuccess_warned 100 100).mpr (Nat.le_refl 100)
  have beyond := (isSuccess_warned 100 101).mp (claimed.mp success 101 (by decide))
  exact absurd beyond (by decide)

end Warned

end PipedQuery
