import PipedQuery.Proofs.Grammar.Dots
import PipedQuery.Proofs.Grammar.Stages

/-!
# Commands around an expression

Lexemes that are an expression by themselves are read as that expression wherever a command has one:
as a condition (`Parser.filter_of_expression`), as an assigned value, and as the filter of a search,
behind its sources (`Parser.searchBody_of_sources`) and in front of them.
-/

namespace PipedQuery

variable {ls : List Lexeme} {x : Expr}

namespace Parser

theorem startsSourceClause_append {us : List Lexeme} (clause : startsSourceClause us = true)
    (nonempty : ls ≠ []) : startsSourceClause (ls ++ us) = startsSourceClause ls := by
  obtain ⟨word, sign, more, rfl, kind | kind, -⟩ := exists_of_startsSourceClause clause <;>
    match ls, nonempty with
    | [l], _ => simp [startsSourceClause, startsOption, kind]
    | l :: m :: ls, _ => rfl

section Whole

variable (whole : Grammar.full.expression ls = ⟨.ok x, [], []⟩)
include whole

theorem eval_of_expression (field : String) :
    eval Grammar.full (Keyword.eval.lexeme :: (nameLexemes field ++ .mark .equal :: ls)) =
      ⟨.ok (.eval [⟨field, x⟩]), [], []⟩ := by
  have list := lenientList_of_one (assignment_of_expression field whole) (by simp)
  simp [eval, need_run, list]

/-- An expression is read alike at the end and in front of a clause on the sources of a search. -/
theorem expression_of_clause {us : List Lexeme} (clause : startsSourceClause us = true) :
    Grammar.full.expression (ls ++ us) = ⟨.ok x, us, []⟩ := by
  have seam : IsSeam us := ⟨.inr (.inr (.inr (.inr clause)))⟩
  have passes : Passes false us (.keyword .in_) := by
    obtain ⟨word, sign, more, rfl, kind | kind, -⟩ := exists_of_startsSourceClause clause <;>
      exact ⟨fun _ => by simp [kind]⟩
  exact Grammar.expression_of_seam whole us

/-- Behind the filter of a search the clause on its sources may stand too. -/
theorem searchBody_of_filter {sources : List DataSource} (nonempty : sources ≠ [])
    (readable : ∀ s ∈ sources, s.IsReadable) (plain : startsSourceClause ls = false) :
    searchBody Grammar.full (ls ++ Keyword.source.lexeme :: .mark .equal ::
      commaLexemes (sources.map DataSource.lexemes)) =
        ⟨.ok (.search ⟨sources, some x⟩), [], []⟩ := by
  have written := ne_nil_of_expression whole
  have clause := sourceClause_run nonempty readable [] endsNames_nil
  rw [List.append_nil] at clause
  generalize behind : Keyword.source.lexeme :: .mark .equal ::
    commaLexemes (sources.map DataSource.lexemes) = us at clause
  have starts : startsSourceClause us = true := behind ▸ startsSourceClause_source _
  have filter := expression_of_clause whole starts
  have first : startsSourceClause (ls ++ us) = false := by
    rw [startsSourceClause_append starts written, plain]
  have more : ls ++ us ≠ [] := List.append_ne_nil_of_left_ne_nil written us
  simp only [searchBody, bind_run, lexemes_run, Outcome.bind_ok, first, Bool.false_eq_true,
    if_false, need_run _ more, filter, starts, if_true, Outcome.after_nil, clause, pure_run]

end Whole

end Parser

end PipedQuery
