import PipedQuery.Proofs.Expr.Buildable
import PipedQuery.Proofs.Expr.Pipeless
import PipedQuery.Proofs.Expr.Scan
import PipedQuery.Proofs.Grammar.ReadBack
import PipedQuery.Proofs.Pipeline.Standalone

/-!
# Parsing printed expressions

The canonical text of a readable expression is parsed into that expression, as long as its nesting
stays within the limit.
-/

namespace PipedQuery

open PipedQuery.Expr

variable {e : Expr}

/-- The lexemes of a readable expression that is not nested too deeply are read back whole. -/
theorem expression_lexemes (readable : Readable .other e) (low : e.levels ≤ maxNesting) :
    Parser.expression e.lexemes = ⟨.ok e, [], []⟩ := by
  have whole := readable.readsBack.whole [] low (by simp [Closes]) rfl
  rw [List.append_nil] at whole
  exact whole

/-- A readable expression is what its canonical text is parsed into. -/
theorem parseExpression_readable (readable : Readable .other e) (low : e.levels ≤ maxNesting) :
    parseExpression e.text = .ok e :=
  parseExpression_of_ok readable.reads readable.pipeless (expression_lexemes readable low)

/-- A hand-built expression of limited height is what its canonical text is parsed into. -/
theorem parseExpression_text (built : Buildable e) (low : e.height ≤ 50) :
    parseExpression e.text = .ok e := by
  refine parseExpression_readable (built.readable .other) ?_
  have levels := built.levels_le
  have limit : maxNesting = 100 := rfl
  omega

/-- A choice with a quoted keyword, a signed number, a quoted name and an escaped quotation mark. -/
theorem parseExpression_text_case :
    parseExpression "case(not (`in` like -3), abs(`a b`) else x.y in ('it\\'s'))" =
      .ok (.case [(.unary .not (.binary .like (.field "in") (.unary .negate (.literal (.int 3)))),
          .call "abs" .scalar [.field "a b"] [])]
        (some (.inList (.field "x.y") [.literal (.str "it's")]))) := by
  have plain : ∀ name ∈ ["in", "a b", "x.y"], Buildable (.field name) := by
    intro name member
    simp only [List.mem_cons, List.not_mem_nil, or_false] at member
    rcases member with rfl | rfl | rfl <;> exact .field (by decide) (by decide +kernel) (by decide +kernel)
  have abs : Buildable (.call "abs" .scalar [.field "a b"] []) := by
    have name : Keyword.abs.lowercase = "abs" := by decide +kernel
    rw [← name]
    refine .call rfl (by decide) ?_ (by simpa using plain "a b" (by simp))
    rintro arity ⟨⟩
    rfl
  have condition : Buildable (.unary .not
      (.binary .like (.field "in") (.unary .negate (.literal (.int 3))))) :=
    .unary (.binary (fun _ => rfl) (plain "in" (by simp))
      (.unary (.int (by decide) (by simp [IsIntConstant, maxInt]))))
  have fallback : Buildable (.inList (.field "x.y") [.literal (.str "it's")]) :=
    .inList (by simp) (plain "x.y" (by simp)) (by simpa using .str "it's")
  have built : Buildable (.case [(_, _)] (some _)) := .case (by simp) (by simpa using condition)
    (by simpa using abs) (by simpa using fallback)
  have parsed := parseExpression_text built (by decide)
  rw [show text _ = "case(not (`in` like -3), abs(`a b`) else x.y in ('it\\'s'))" by
    decide +kernel] at parsed
  exact parsed

end PipedQuery
