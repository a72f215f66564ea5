import PipedQuery.Proofs.Grammar.Depth
import PipedQuery.Proofs.Grammar.Dots
import PipedQuery.Proofs.Grammar.Primary

/-!
# Expressions in parentheses

Lexemes that are an expression are the same expression in parentheses, unless it is nested too deeply
there (`Grammar.expression_group`).  As many parentheses as there are levels are always too many
(`Grammar.expression_groups`).
-/

namespace PipedQuery

variable {ts rest : List Lexeme} {issue : Issue} {raised : List Issue} {e : Expr}

/-- Lexemes in `n` pairs of parentheses. -/
def groups : Nat → List Lexeme → List Lexeme
  | 0, ls => ls
  | n + 1, ls => .mark .lParen :: (groups n ls ++ [.mark .rParen])

namespace Parser

/-! What starts with a part that stops, stops there. -/

theorem bind_of_error {α β : Type} {p : StageParser α} (found : p ts = ⟨.error issue, rest, raised⟩)
    (f : α → StageParser β) : (p >>= f) ts = ⟨.error issue, rest, raised⟩ := by
  rw [bind_run, found, Outcome.bind_error]

theorem chain_of_error {operand : StageParser Expr} (found : operand ts = ⟨.error issue, rest, raised⟩)
    (op? : StageParser (Option BinaryOp)) : chain operand op? ts = ⟨.error issue, rest, raised⟩ :=
  bind_of_error found _

end Parser

namespace Grammar

open PipedQuery.Parser

variable {n : Nat}

theorem additive_of_error (found : (level n).unary ts = ⟨.error issue, rest, raised⟩) :
    (level n).additive ts = ⟨.error issue, rest, raised⟩ := by
  rw [additive_level]
  exact chain_of_error (chain_of_error found _) _

theorem expression_of_negation_error
    (found : (level n).negation ts = ⟨.error issue, rest, raised⟩) :
    (level n).expression ts = ⟨.error issue, rest, raised⟩ := by
  rw [expression_level]
  exact chain_of_error (chain_of_error (chain_of_error found _) _) _

theorem expression_of_error (noSign : firstKind ts ≠ some (.keyword .not_))
    (found : (level n).unary ts = ⟨.error issue, rest, raised⟩) :
    (level n).expression ts = ⟨.error issue, rest, raised⟩ := by
  apply expression_of_negation_error
  rw [negation_level, negation_of_ne _ _ noSign]
  exact bind_of_error (additive_of_error found) _

theorem unary_group_of_error
    (found : (level n).expression ts = ⟨.error issue, rest, raised⟩) :
    (level (n + 1)).unary (.mark .lParen :: ts) = ⟨.error issue, rest, raised⟩ := by
  have form : primaryForm (.mark .lParen :: ts) = .group := rfl
  rw [unary_of_form (by simp [form])]
  simp [primary, form, found]

/-- An expression is that in parentheses too, if there is a level left for them. -/
theorem expression_group {ls : List Lexeme}
    (whole : (level (n + 1)).expression ls = ⟨.ok e, [], []⟩) :
    let group := .mark .lParen :: (ls ++ [.mark .rParen])
    (level (n + 1)).expression group = ⟨.ok e, [], []⟩ ∨ ∃ place left,
      (level (n + 1)).expression group = ⟨.error ⟨.nestedTooDeeply, place⟩, left, []⟩ := by
  have limited := (limited_level (Nat.le_succ n)).expression
  have noSign : firstKind (.mark .lParen :: (ls ++ [.mark .rParen])) ≠ some (.keyword .not_) := by
    simp
  have closed := expression_of_seam whole [.mark .rParen]
  obtain same | ⟨place, left, nested⟩ := limited.ok_or_nested closed
  · have closes : Closes [] := nofun
    exact .inl (expression_of_unary noSign (unary_group same) closes)
  · exact .inr ⟨place, left, expression_of_error noSign (unary_group_of_error nested)⟩

/-- Without any level left, nothing is an expression. -/
theorem expression_level_zero (ts : List Lexeme) : ∃ place left,
    (level 0).expression ts = ⟨.error ⟨.nestedTooDeeply, place⟩, left, []⟩ := by
  by_cases sign : firstKind ts = some (.keyword .not_)
  · refine ⟨ts.tail.length, ts.tail, expression_of_negation_error ?_⟩
    rw [negation_level]
    simp [Parser.negation, deeperNegation, eatKeyword, eat_run, sign]
  · exact ⟨_, _, expression_of_error sign rfl⟩

/-- With as many parentheses around them as there are levels, no lexemes are an expression. -/
theorem expression_groups (n : Nat) (ls ts : List Lexeme) : ∃ place left,
    (level n).expression (groups n ls ++ ts) = ⟨.error ⟨.nestedTooDeeply, place⟩, left, []⟩ := by
  induction n generalizing ts with
  | zero => exact expression_level_zero (ls ++ ts)
  | succ n ih =>
    obtain ⟨place, left, inner⟩ := ih (.mark .rParen :: ts)
    refine ⟨place, left, expression_of_error (by simp [groups]) ?_⟩
    rw [groups, List.cons_append, List.append_assoc]
    exact unary_group_of_error inner

end Grammar

end PipedQuery
