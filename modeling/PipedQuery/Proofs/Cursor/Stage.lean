import PipedQuery.Cursor

/-!
# The stage around a cursor

The tokens at a cursor are those up to the next boundary (`Cursor.before`) and those from there on
(`Cursor.beyond`).  A parser of a stage knows the first ones only.  What it comes to can be seen from
the cursor (`Cursor.after`): so many tokens are passed over, the issues that it raised are kept, and
their places are counted with the tokens beyond the boundary.

What a cursor tells of a boundary is told by the stage: it is at its end where the stage has no
lexemes left (`Cursor.atBoundary_eq`), and passing over tokens up to there passes over what is left of
it (`Cursor.synchronize_eq`).
-/

namespace PipedQuery

theorem takeWhile_drop {α : Type} {p : α → Bool} {l : List α} {n : Nat}
    (inside : n ≤ (l.takeWhile p).length) : (l.drop n).takeWhile p = (l.takeWhile p).drop n := by
  induction l generalizing n with
  | nil => simp
  | cons a l ih =>
    cases n with
    | zero => rfl
    | succ n =>
      by_cases h : p a = true
      · rw [List.takeWhile_cons_of_pos h] at inside ⊢
        exact ih (Nat.le_of_succ_le_succ inside)
      · rw [List.takeWhile_cons_of_neg h] at inside
        cases inside

/-- The issue at the same lexeme, counted with more lexemes behind the stage. -/
def Issue.before (n : Nat) (issue : Issue) : Issue := ⟨issue.cause, issue.remaining + n⟩

namespace Cursor

variable {α β : Type}

/-- The tokens up to the next boundary. -/
def before (c : Cursor) : List Token := (c.tokens.drop c.pos).takeWhile fun t => !t.isPipe

/-- The tokens from the next boundary on. -/
def beyond (c : Cursor) : List Token := (c.tokens.drop c.pos).dropWhile fun t => !t.isPipe

/-- The lexemes of the stage that are left. -/
def stage (c : Cursor) : List Lexeme := c.before.map Token.toLexeme

/-- The boundary cuts the tokens at a cursor in two. -/
theorem before_append_beyond (c : Cursor) : c.before ++ c.beyond = c.tokens.drop c.pos :=
  List.takeWhile_append_dropWhile

/-- What the grammar sees at a cursor is the stage and everything beyond it. -/
theorem ahead_eq (c : Cursor) : Input.ahead c = c.stage ++ c.beyond.map Token.toLexeme := by
  rw [stage, ← List.map_append, before_append_beyond]
  rfl

theorem length_ahead (c : Cursor) : (Input.ahead c).length = c.stage.length + c.beyond.length := by
  rw [ahead_eq, List.length_append, List.length_map]

/-- Steps within the stage leave the boundary where it is. -/
theorem before_advance {c : Cursor} {n : Nat} (inside : n ≤ c.before.length) :
    (c.advance n).before = c.before.drop n ∧ (c.advance n).beyond = c.beyond := by
  have before : (c.advance n).before = c.before.drop n := by
    rw [Cursor.before, Cursor.before, ← takeWhile_drop inside, List.drop_drop]
    rfl
  have same : c.before.drop n ++ (c.advance n).beyond = c.before.drop n ++ c.beyond := calc
    c.before.drop n ++ (c.advance n).beyond
    _ = (c.advance n).before ++ (c.advance n).beyond := by rw [before]
    _ = (c.tokens.drop c.pos).drop n := by
      rw [before_append_beyond, List.drop_drop]
      rfl
    _ = c.before.drop n ++ c.beyond := by
      rw [← before_append_beyond, List.drop_append_of_le_length inside]
  exact ⟨before, List.append_cancel_left same⟩

/-- Some steps do not lead over the boundary. -/
theorem stage_advance {c : Cursor} {n : Nat} (inside : n ≤ c.stage.length) :
    (c.advance n).stage = c.stage.drop n ∧ (c.advance n).beyond = c.beyond := by
  rw [stage, List.length_map] at inside
  obtain ⟨before, beyond⟩ := before_advance inside
  exact ⟨by rw [stage, before, List.map_drop, stage], beyond⟩

/-- The cursor with the diagnostics of some issues, as far as there is room for them. -/
def reports (c : Cursor) (issues : List Issue) : Cursor :=
  { c with diagnostics := issues.foldl c.keep c.diagnostics }

/-- Issues are reported one after the other. -/
theorem reports_append (c : Cursor) (issues more : List Issue) :
    c.reports (issues ++ more) = (c.reports issues).reports more := by
  rw [reports, List.foldl_append]
  rfl

/-- What a parser of the stage comes to, seen from the cursor. -/
def after (c : Cursor) (o : StageOutcome α) : Outcome Cursor α :=
  { result := o.result.mapError (.before c.beyond.length)
    rest := (c.advance (c.stage.length - o.rest.length)).reports
      (o.raised.map (.before c.beyond.length))
    raised := o.raised.map (.before c.beyond.length) }

/-- Behind a parser the rest of the stage is left, and the same behind it. -/
theorem stage_after {c : Cursor} {o : StageOutcome α} (suffix : o.rest <:+ c.stage) :
    (c.after o).rest.stage = o.rest ∧ (c.after o).rest.beyond = c.beyond := by
  obtain ⟨stage, beyond⟩ := c.stage_advance (Nat.sub_le c.stage.length o.rest.length)
  exact ⟨stage.trans (List.suffix_iff_eq_drop.mp suffix).symm, beyond⟩

/-- One parser after another one. -/
theorem after_after {c : Cursor} {o : StageOutcome α} {o' : StageOutcome β}
    (suffix : o.rest <:+ c.stage) (later : o'.rest <:+ o.rest) :
    ((c.after o).rest.after o').after (o.raised.map (.before c.beyond.length)) =
      c.after (o'.after o.raised) := by
  obtain ⟨stage, beyond⟩ := stage_after suffix
  have fewer := suffix.length_le
  have less := later.length_le
  have steps : c.stage.length - o.rest.length + (o.rest.length - o'.rest.length) =
      c.stage.length - o'.rest.length := by omega
  have place : ((c.after o).rest.advance (o.rest.length - o'.rest.length)) =
      (c.advance (c.stage.length - o'.rest.length)).reports
        (o.raised.map (.before c.beyond.length)) := by
    rw [← steps]
    simp only [after, advance, reports, Nat.add_assoc]
    rfl
  simp only [after, Outcome.after, List.map_append] at stage beyond place ⊢
  rw [reports_append, stage, beyond, place]

/-- A parser that stays where it is. -/
theorem after_stay (c : Cursor) (result : Except Issue α) (raised : List Issue) :
    c.after ⟨result, c.stage, raised⟩ =
      ⟨result.mapError (.before c.beyond.length),
        c.reports (raised.map (.before c.beyond.length)), raised.map (.before c.beyond.length)⟩ := by
  rw [after, Nat.sub_self]
  rfl

/-- Passing over lexemes of the stage is passing over tokens. -/
theorem after_advance {c : Cursor} {n : Nat} (inside : n ≤ c.stage.length) :
    c.after ⟨(.ok () : Except Issue Unit), c.stage.drop n, []⟩ = ⟨.ok (), c.advance n, []⟩ := by
  rw [after, List.length_drop, Nat.sub_sub_self inside]
  rfl

/-- The cursor is at a boundary where nothing of the stage is left. -/
theorem atBoundary_eq (c : Cursor) : c.atBoundary = c.stage.isEmpty := by
  rw [atBoundary, next?, ← List.head?_drop, stage, before]
  cases c.tokens.drop c.pos with
  | nil => rfl
  | cons t ts => cases pipe : t.isPipe <;> simp [pipe]

/-- What is passed over up to the next boundary is the stage. -/
theorem synchronize_eq (c : Cursor) : c.synchronize = c.advance c.stage.length := by
  fun_induction synchronize c with
  | case1 c ends =>
    rw [atBoundary_eq, List.isEmpty_iff] at ends
    rw [ends]
    rfl
  | case2 c inside ih =>
    rw [atBoundary_eq] at inside
    have one : 1 ≤ c.stage.length := by
      cases found : c.stage with
      | nil => simp [found] at inside
      | cons l ts => simp
    rw [ih, (stage_advance one).1, List.length_drop, advance, advance, advance, Nat.add_assoc,
      Nat.add_sub_of_le one]

end Cursor

end PipedQuery
