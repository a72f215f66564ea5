import PipedQuery.Proofs.Cursor.Discipline
import PipedQuery.Proofs.Expr.Scan
import PipedQuery.Proofs.Grammar.Parentheses
import PipedQuery.Proofs.Pipeline.Whole

/-!
# Redundant parentheses

Parentheses around a text that is an expression change nothing, unless they make it nested too
deeply, which is then all that is reported.  And what is an expression at some depth is the same one
at every lower depth (`parentheses_redundant`).  As many parentheses as there are levels are too many
around every text (`parseExpression_parens_beyond`).
-/

namespace PipedQuery

open Scan

variable {text : String} {ls rest : List Lexeme} {e : Expr}

/-! Texts of which the expression is refused. -/

/-- Nesting too deeply is an error and says so. -/
theorem Cause.diagnose_nested (stop : Position) (found : Option Token) :
    (nestedTooDeeply.diagnose stop found).isError = true ∧
      (nestedTooDeeply.diagnose stop found).message = "expression nested too deeply" := by
  cases found <;> exact ⟨rfl, rfl⟩

/-- Where an expression is nested too deeply and nothing else is wrong before, that is the only
    error. -/
theorem parseExpression_of_nested {place : Nat} (reads : Reads text.toList ls)
    (pipeless : Pipeless ls)
    (found : Grammar.full.expression ls = ⟨.error ⟨.nestedTooDeeply, place⟩, rest, []⟩) :
    ∃ d, parseExpression text = .error [d] ∧ d.message = "expression nested too deeply" := by
  let s := Session.ofTokens (scan text) {}
  let d := s.stage.diagnose s.stop ⟨.nestedTooDeeply, place⟩
  have clean : s.raised = [] := lexicalDiagnostics_scan reads
  obtain ⟨error, message⟩ := Cause.diagnose_nested s.stop (s.stage.tokenAt place)
  have run : ∃ s', s.expression = (.error d, s') ∧ s'.raised = [] ∧ s'.options = {} := by
    obtain ⟨lexemes, -⟩ := stage_ofTokens reads pipeless {}
    have found : Parser.expression s.stage.lexemes = _ := lexemes ▸ found
    refine ⟨_, by rw [Session.expression, Session.run, found]; rfl, ?_, rfl⟩
    simp [Session.raise, clean]
  obtain ⟨s', run, raised, options⟩ := run
  have errors : (s'.raise [d]).errors = [d] := by
    have isError : d.isError = true := error
    simp [Session.errors, Session.kept, Session.raise, raised, options, isError,
      Diagnostic.sorted_cons]
  refine ⟨d, ?_, message⟩
  change s.standalone = _
  rw [Session.standalone, run]
  exact congrArg _ errors

section Groups

/-- A text in `n` pairs of parentheses. -/
def parenthesized : Nat → String → String
  | 0, text => text
  | n + 1, text => "(" ++ parenthesized n text ++ ")"

/-- Parentheses around a text are scanned around its lexemes. -/
theorem reads_parenthesized (reads : Reads text.toList ls) (n : Nat) :
    Reads (parenthesized n text).toList (groups n ls) := by
  induction n with
  | zero => exact reads
  | succ n ih =>
    rw [parenthesized, String.toList_append, String.toList_append]
    exact reads_parens ih

theorem pipeless_groups (pipeless : Pipeless ls) (n : Nat) : Pipeless (groups n ls) := by
  induction n with
  | zero => exact pipeless
  | succ n ih =>
    refine List.forall_mem_cons.mpr ⟨nofun, List.forall_mem_append.mpr ⟨ih, ?_⟩⟩
    exact List.forall_mem_singleton.mpr nofun

variable (parsed : parseExpression text = .ok e)
include parsed

theorem parseExpression_parens :
    parseExpression (parenthesized 1 text) = .ok e ∨
      ∃ d, parseExpression (parenthesized 1 text) = .error [d] ∧
        d.message = "expression nested too deeply" := by
  obtain ⟨ls, h⟩ := exists_isExpression parsed
  have reads := reads_parenthesized h.reads 1
  have pipeless := pipeless_groups h.pipeless 1
  obtain same | ⟨place, left, nested⟩ := Grammar.expression_group (n := 99) h.whole
  · exact .inl (parseExpression_of_ok reads pipeless same)
  · exact .inr (parseExpression_of_nested reads pipeless nested)

/-- Parentheses cannot be added for ever. -/
theorem parseExpression_parens_beyond :
    ∃ d, parseExpression (parenthesized maxNesting text) = .error [d] ∧
      d.message = "expression nested too deeply" := by
  obtain ⟨ls, h⟩ := exists_isExpression parsed
  obtain ⟨place, left, nested⟩ := Grammar.expression_groups maxNesting ls []
  rw [List.append_nil] at nested
  exact parseExpression_of_nested (reads_parenthesized h.reads _) (pipeless_groups h.pipeless _)
    nested

end Groups

/-- Expressions are told apart by their texts more easily than by themselves. -/
theorem exists_ok_of_text {ε : Type} (result : Except ε Expr)
    (found : result.toOption.map Expr.text = some text) : ∃ e, result = .ok e ∧ e.text = text := by
  cases result with
  | error _ => cases found
  | ok e => exact ⟨e, rfl, Option.some.inj found⟩

/-! Cursors with fewer levels open. -/

namespace Cursor

variable {c c' : Cursor} {d : Nat} {raised : List Issue}

/-- How many levels are open does not matter to what a parser of the stage comes to. -/
theorem after_depth {α : Type} (c : Cursor) (d : Nat) (o : StageOutcome α) :
    { c with depth := d }.after o =
      { c.after o with rest := { (c.after o).rest with depth := d } } := rfl

/-- A value at a cursor is one of its stage. -/
theorem exists_of_after {α : Type} {a : α} {o : StageOutcome α}
    (found : c.after o = ⟨.ok a, c', raised⟩) : ∃ rest issues, o = ⟨.ok a, rest, issues⟩ := by
  obtain ⟨issue | b, rest, issues⟩ := o
  · cases congrArg Outcome.result found
  · cases congrArg Outcome.result found
    exact ⟨rest, issues, rfl⟩

/-- An expression that is accepted at a depth is the same, in the same place, at any lower depth. -/
theorem expression_of_le (found : expression c = ⟨.ok e, c', raised⟩) (lower : d ≤ c.depth) :
    expression { c with depth := d } = ⟨.ok e, { c' with depth := d }, raised⟩ := by
  have limited := (Grammar.limited_level (Nat.sub_le_sub_left lower maxNesting)).expression
  rw [expression_eq] at found ⊢
  obtain ⟨rest, issues, given⟩ := exists_of_after found
  have same : (Grammar.level (maxNesting - d)).expression { c with depth := d }.stage =
      ⟨.ok e, rest, issues⟩ := limited.eq_of_ok given
  rw [given] at found
  rw [same, after_depth, found]

end Cursor

/-- Parentheses around a text that is an expression change nothing, unless it is nested too deeply
    in them.  Whatever the tokens, an expression at some depth is the same one at every lower depth,
    and it leaves the same place and the same diagnostics. -/
theorem parentheses_redundant :
    (∀ text e, parseExpression text = .ok e →
      parseExpression ("(" ++ text ++ ")") = .ok e ∨
        ∃ d, parseExpression ("(" ++ text ++ ")") = .error [d] ∧
          d.message = "expression nested too deeply") ∧
    ∀ (c c' : Cursor) (e : Expr) (raised : List Issue) (d : Nat),
      Cursor.expression c = ⟨.ok e, c', raised⟩ → d ≤ c.depth →
        Cursor.expression { c with depth := d } = ⟨.ok e, { c' with depth := d }, raised⟩ :=
  ⟨fun _ _ => parseExpression_parens, fun _ _ _ _ _ => Cursor.expression_of_le⟩

/-- A number in one pair of parentheses may be put in another one, and what is an expression close to
    the limit is the same one outside expressions. -/
theorem parentheses_redundant_around_a_number :
    let c : Cursor := { Cursor.ofTokens (scan "(not 1)") {} with pos := 1, depth := 97 }
    (∃ e, parseExpression "(1)" = .ok e ∧ parseExpression "((1))" = .ok e ∧ e.text = "1") ∧
      ∃ e c' raised, Cursor.expression c = ⟨.ok e, c', raised⟩ ∧ 0 ≤ c.depth ∧ e.text = "not 1" ∧
        Cursor.expression { c with depth := 0 } = ⟨.ok e, { c' with depth := 0 }, raised⟩ := by
  intro c
  have run : (parseExpression "(1)").toOption.map Expr.text = some "1" ∧
      (parseExpression ("(" ++ "(1)" ++ ")")).isOk = true ∧
        (Cursor.expression c).result.toOption.map Expr.text = some "not 1" := by
    decide +kernel
  obtain ⟨once, twice, inside⟩ := run
  constructor
  · obtain ⟨e, parsed, written⟩ := exists_ok_of_text _ once
    refine ⟨e, parsed, ?_, written⟩
    obtain same | ⟨d, refused, -⟩ := parentheses_redundant.1 _ _ parsed
    · exact same
    · rw [refused] at twice
      cases twice
  · obtain ⟨e, given, written⟩ := exists_ok_of_text _ inside
    have low : 0 ≤ c.depth := Nat.zero_le _
    have found : Cursor.expression c =
        ⟨.ok e, (Cursor.expression c).rest, (Cursor.expression c).raised⟩ := by rw [← given]
    exact ⟨e, _, _, found, low, written, parentheses_redundant.2 c _ e _ 0 found low⟩

end PipedQuery
