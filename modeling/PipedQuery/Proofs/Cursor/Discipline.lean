import PipedQuery.Proofs.Cursor.Commands
import PipedQuery.Proofs.Grammar.ForwardStages
import PipedQuery.Proofs.Grammar.Knot

/-!
# What a parser does to its place in a query

A parser may raise the level it works on, jump over tokens and stop anywhere.  Still, a command and an
expression move the cursor forward within its stage and take back nothing (`Cursor.disciplined`).

That they come to an end is not owed to the guards that `Parser.iterate` and `Parser.fix` put into
every loop.  None of them is ever needed: a loop obeys the plain equation of a loop
(`Parser.Refines.iterate_eq`), and the grammar of expressions those of its rules
(`Cursor.grammar_expression`, `Cursor.grammar_negation`, `Cursor.grammar_unary`).
-/

namespace PipedQuery

namespace Cursor

variable {α : Type}

/-- Where the cursor stands. -/
def setting (c : Cursor) : Setting := ⟨c.depth, c.beyond.length, c.stage.length⟩

theorem in_setting (c : Cursor) : c.In c.setting := ⟨rfl, rfl, Nat.le_refl _⟩

/-- What a parser may come to at a cursor, whether it gives a value or stops at an issue. -/
structure Disciplined (c : Cursor) (o : Outcome Cursor α) : Prop where
  tokens : o.rest.tokens = c.tokens
  stop : o.rest.stop = c.stop
  options : o.rest.options = c.options
  /-- Every level that was opened is closed again. -/
  depth : o.rest.depth = c.depth
  forward : c.pos ≤ o.rest.pos
  within : o.rest.pos ≤ c.tokens.length
  /-- No pipe is passed over. -/
  pipeless : ∀ i, c.pos ≤ i → i < o.rest.pos → ∀ t ∈ c.tokens[i]?, t.isPipe = false
  diagnostics : c.diagnostics <+: o.rest.diagnostics
  progress : ∀ a, o.result = .ok a → c.pos < o.rest.pos

theorem length_before_le (c : Cursor) : c.before.length ≤ c.tokens.length - c.pos := by
  have fewer : c.before.length ≤ (c.tokens.drop c.pos).length :=
    (List.takeWhile_prefix _).length_le
  rwa [List.length_drop] at fewer

/-- Up to the next boundary there are no pipes. -/
theorem not_isPipe_before {c : Cursor} {i : Nat} (start : c.pos ≤ i)
    (inside : i < c.pos + c.before.length) {t : Token} (found : c.tokens[i]? = some t) :
    t.isPipe = false := by
  have near : i - c.pos < c.before.length := by omega
  have place : c.before[i - c.pos]? = some t := by
    rw [← List.getElem?_append_left near, before_append_beyond, List.getElem?_drop,
      Nat.add_sub_of_le start, found]
  have apart := List.all_eq_true.mp List.all_takeWhile t (List.mem_of_getElem? place)
  simpa using apart

/-- A diagnostic is put behind those that are kept, or dropped. -/
theorem prefix_keep (c : Cursor) (ds : List Diagnostic) (issue : Issue) :
    ds <+: c.keep ds issue := by
  rw [keep, Diagnostic.keep]
  split
  · exact List.prefix_append ds _
  · exact List.prefix_refl ds

/-- No diagnostic that is kept is taken back. -/
theorem prefix_reports (c : Cursor) (issues : List Issue) :
    c.diagnostics <+: (c.reports issues).diagnostics := by
  rw [reports]
  generalize c.diagnostics = ds
  induction issues generalizing ds with
  | nil => exact List.prefix_refl ds
  | cons issue issues ih => exact (c.prefix_keep ds issue).trans (ih _)

/-- Where a stage parser that reads something before it gives a value is refined, there is
    discipline. -/
theorem disciplined_after {c : Cursor} (inside : c.pos ≤ c.tokens.length) {o : StageOutcome α}
    (shorter : ∀ a, o.result = .ok a → o.rest.length < c.stage.length) :
    c.Disciplined (c.after o) := by
  have fewer := c.length_before_le
  have length : c.stage.length = c.before.length := List.length_map _
  have place : (c.after o).rest.pos = c.pos + (c.stage.length - o.rest.length) := rfl
  refine ⟨rfl, rfl, rfl, rfl, by omega, by omega, fun i start near t found => ?_,
    prefix_reports _ _, fun a given => ?_⟩
  · exact not_isPipe_before start (by omega) found
  · cases result : o.result with
    | error issue =>
      have same : (c.after o).result = o.result.mapError _ := rfl
      rw [same, result] at given
      cases given
    | ok b =>
      have less := shorter b result
      omega

end Cursor

namespace Parser

open Cursor

variable {α : Type} {e : Setting} {a : Parser Cursor α} {p : StageParser α} {c : Cursor}

/-- At a cursor a parser comes to what the parser of the stage comes to. -/
theorem Refines.eq_after (h : Refines e 0 a p) (inside : c.In e) : a c = c.after (p c.stage) :=
  (h.at_ c inside (Nat.zero_le _)).seen

/-- Two parsers that refine the same one do the same. -/
theorem Refines.unique {b : Parser Cursor α} (h : Refines e 0 a p) (h' : Refines e 0 b p)
    (inside : c.In e) : a c = b c := by
  rw [h.eq_after inside, h'.eq_after inside]

/-- So a parser that refines one that reads something has discipline. -/
theorem Refines.disciplined_of_consumes (h : Refines c.setting 0 a p) (consumes : Consumes p)
    (inside : c.pos ≤ c.tokens.length) : c.Disciplined (a c) := by
  rw [h.eq_after c.in_setting]
  exact disciplined_after inside fun x given => consumes.shorter c.stage x given trivial

/-- A loop of which the steps stride goes on as long as they tell it to. -/
theorem Refines.iterate_eq {step : α → Parser Cursor (Option α)}
    {step' : α → StageParser (Option α)} (steps : ∀ x, Refines e 0 (step x) (step' x))
    (strides : ∀ x, Strides (step' x)) (x : α) (inside : c.In e) :
    Parser.iterate step x c = (do
      match ← step x with
      | some x => Parser.iterate step x
      | none => return x) c := by
  refine (Refines.iterate steps x).unique ?_ inside
  rw [Parser.iterate_eq strides]
  refine (steps x).andThen fun found => ?_
  cases found with
  | none => infer_instance
  | some x => exact .iterate steps x

end Parser

namespace Cursor

open PipedQuery.Parser

variable (c : Cursor)

/-- At a cursor the grammar has the levels that can still be opened there. -/
theorem refines_grammar : grammar.Refines c.setting (Grammar.level (maxNesting - c.depth)) :=
  refines_level (Nat.le_add_right maxNesting c.depth)

/-- An expression is that of the stage, with the levels that can still be opened. -/
theorem expression_eq :
    expression c = c.after ((Grammar.level (maxNesting - c.depth)).expression c.stage) :=
  c.refines_grammar.expression.eq_after c.in_setting

/-- At a place among the tokens, commands and expressions are read with discipline, however many
    levels are open there. -/
theorem disciplined (inside : c.pos ≤ c.tokens.length) (first : Bool) :
    c.Disciplined (command first c) ∧ c.Disciplined (expression c) := by
  have consumes := Grammar.consumes_level (maxNesting - c.depth)
  have grammar := c.refines_grammar
  exact ⟨(refines_command grammar first).disciplined_of_consumes
      (consumes_command consumes first) inside,
    grammar.expression.disciplined_of_consumes consumes.expression inside⟩

/-- The second stage of a query is read up to its pipe, also if two levels are open there. -/
theorem disciplined_second_stage :
    let c : Cursor :=
      { ofTokens (scan "head 5 | where not x | sort y") {} with pos := 3, depth := 2 }
    c.pos ≤ c.tokens.length ∧ c.Disciplined (command false c) ∧ (command false c).rest.pos = 6 := by
  intro c
  have run : 3 ≤ c.tokens.length ∧ (command false c).rest.pos = 6 := by
    decide +kernel
  exact ⟨run.1, (disciplined c run.1 false).1, run.2⟩

/-! The rules of the expression grammar, without the guards and the levels that it is unfolded to. -/

/-- A nested parser is told by what it does inside a level. -/
theorem nested_eq {a b : Parser Cursor α} (same : ∀ c : Cursor, 0 < c.depth → a c = b c) :
    nested a = nested b := by
  funext c
  rw [nested, nested, same _ (Nat.succ_pos c.depth)]

/-- Inside a level, one level less can be opened, so that the last one makes no difference. -/
theorem refines_level_inside (opened : 0 < c.depth) :
    (level (maxNesting - 1)).Refines c.setting (Grammar.level (maxNesting - c.depth)) :=
  refines_level (show maxNesting ≤ maxNesting - 1 + c.depth by omega)

/-- An expression consists of conditions joined by logical operators. -/
theorem grammar_expression : grammar.expression = Parser.logical grammar.negation := by
  funext c
  have whole := c.refines_grammar.expression
  rw [Grammar.expression_level] at whole
  exact whole.unique (.logical c.refines_grammar.negation) c.in_setting

/-- A condition is a comparison, or `not` and a condition one level deeper. -/
theorem grammar_negation :
    grammar.negation = Parser.negation (nested grammar.negation)
      (Parser.comparison grammar.additive grammar.expression) := by
  have deeper : nested grammar.negation = nested (level (maxNesting - 1)).negation :=
    nested_eq fun c opened => c.refines_grammar.negation.unique
      (c.refines_level_inside opened).negation c.in_setting
  rw [deeper]
  rfl

/-- An operand consists of its signs and a primary expression, one level deeper. -/
theorem grammar_unary : grammar.unary = nested (Grammar.signed grammar) := by
  have deeper : nested (Grammar.signed grammar) = nested (Grammar.signed (level (maxNesting - 1))) :=
    nested_eq fun c opened => (Grammar.refines_signed c.refines_grammar).unique
      (Grammar.refines_signed (c.refines_level_inside opened)) c.in_setting
  rw [deeper]
  rfl

end Cursor

end PipedQuery
