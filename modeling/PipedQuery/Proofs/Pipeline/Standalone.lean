import PipedQuery.Pipeline
import PipedQuery.Proofs.Scan.Boundary

/-!
# Texts that are a single expression

For a text without lexical problems and without pipes, `parseExpression` comes to what the
expression parser makes of its lexemes.
-/

namespace PipedQuery

variable {text : String} {ls : List Lexeme}

/-- The scanner has nothing to report about a text that reads as lexemes. -/
theorem lexicalDiagnostics_scan (reads : Scan.Reads text.toList ls) :
    lexicalDiagnostics (scan text) = [] := by
  apply List.filterMap_eq_nil_iff.mpr
  intro t member
  by_cases space : t.kind = .space
  · simp [lexicalCause?, space]
  · have found : t.toLexeme ∈ ls := by
      rw [← reads.1, ← lexemes_scan]
      exact List.mem_map_of_mem (List.mem_filter.mpr ⟨member, by simpa using space⟩)
    rw [Lexeme.lexicalCause?_of_isSound (reads.2 _ found), Option.map_none]

/-- The tokens of the session are the lexemes that the text reads as. -/
theorem tokens_ofTokens (reads : Scan.Reads text.toList ls) (options : ParseOptions) :
    (Session.ofTokens (scan text) options).tokens.map Token.toLexeme = ls := by
  have all : ls.filter Lexeme.isSignificant = ls :=
    List.filter_eq_self.mpr fun l member => (reads.2 l member).1
  rw [← all, ← reads.1, ← significant_scan]
  rfl

/-- Without a pipe all tokens are in the first stage. -/
theorem stage_of_no_pipe {s : Session} (noPipe : ∀ t ∈ s.tokens, t.kind ≠ .mark .pipe) :
    s.stage = ⟨s.tokens, none⟩ := by
  have apart : ∀ t ∈ s.tokens, (!t.isPipe) = true := fun t member => by
    simpa [Token.isPipe] using noPipe t member
  rw [Session.stage, Scan.takeWhile_of_all apart, Scan.dropWhile_of_all apart]
  rfl

theorem stage_ofTokens (reads : Scan.Reads text.toList ls)
    (noPipe : ∀ l ∈ ls, l.kind ≠ .mark .pipe) (options : ParseOptions) :
    (Session.ofTokens (scan text) options).stage.lexemes = ls ∧
      (Session.ofTokens (scan text) options).stage.tokens =
        (Session.ofTokens (scan text) options).tokens := by
  have lexemes := tokens_ofTokens reads options
  rw [stage_of_no_pipe]
  · exact ⟨lexemes, rfl⟩
  · intro t member
    exact noPipe t.toLexeme (lexemes ▸ List.mem_map_of_mem member)

/-- An expression that is all of the text is what the text is parsed into. -/
theorem parseExpression_of_ok {e : Expr} (reads : Scan.Reads text.toList ls)
    (noPipe : ∀ l ∈ ls, l.kind ≠ .mark .pipe) (found : Parser.expression ls = ⟨.ok e, [], []⟩) :
    parseExpression text = .ok e := by
  obtain ⟨lexemes, tokens⟩ := stage_ofTokens reads noPipe {}
  have clean : (Session.ofTokens (scan text) {}).raised = [] := lexicalDiagnostics_scan reads
  have run : (Session.ofTokens (scan text) {}).expression =
      (.ok e, { Session.ofTokens (scan text) {} with tokens := [] }) := by
    simp [Session.expression, Session.run, lexemes, found, tokens, Session.raise, clean]
    rfl
  simp [parseExpression, Session.standalone, run, Session.hasErrors, Session.kept, clean]

/-- A text is refused if its expression is. -/
theorem parseExpression_of_error {issue : Issue} {rest : List Lexeme} {raised : List Issue}
    (reads : Scan.Reads text.toList ls) (noPipe : ∀ l ∈ ls, l.kind ≠ .mark .pipe)
    (found : Parser.expression ls = ⟨.error issue, rest, raised⟩) :
    ∃ ds, parseExpression text = .error ds := by
  obtain ⟨lexemes, -⟩ := stage_ofTokens reads noPipe {}
  simp only [parseExpression, Session.standalone, Session.expression, Session.run, lexemes, found]
  exact ⟨_, rfl⟩

end PipedQuery
