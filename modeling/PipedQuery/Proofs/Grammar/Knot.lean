import PipedQuery.Proofs.Grammar.Forward

/-!
# The knot of the expression grammar

`Parser.fix` lets a parser refer to itself only on fewer lexemes than it was given.  Where the parser
never does anything else, the knot can be tied without that (`Parser.fix_eq`).  The expression grammar
is such a parser: it reads a sum before it comes back to itself (`Grammar.expression_level`).
-/

namespace PipedQuery

namespace Parser

variable {α β : Type} {n : Nat} {p q : StageParser α}

/-- Whether two parsers do the same on at most `n` lexemes. -/
def SameUpTo (n : Nat) (p q : StageParser α) : Prop := ∀ ts, ts.length ≤ n → p ts = q ts

theorem SameUpTo.refl (p : StageParser α) : SameUpTo n p p := fun _ _ => rfl

section Steps

variable {f g : α → StageParser β}

/-- What follows a parser has no more lexemes to read than that was given. -/
theorem SameUpTo.bind [first : Advances p] (same : SameUpTo n p q)
    (others : ∀ a, SameUpTo n (f a) (g a)) : SameUpTo n (p >>= f) (q >>= g) := by
  intro ts few
  have left := (first.rest_suffix ts).length_le
  rw [bind_run, bind_run, ← same ts few]
  generalize p ts = o at left ⊢
  obtain ⟨issue | a, rest, raised⟩ := o
  · rfl
  · rw [Outcome.bind_ok, Outcome.bind_ok, others a rest (Nat.le_trans left few)]

/-- What follows a parser that reads something has fewer lexemes to read. -/
theorem SameUpTo.behind (first : Consumes p) (others : ∀ m < n, ∀ a, SameUpTo m (f a) (g a)) :
    SameUpTo n (p >>= f) (p >>= g) := by
  intro ts few
  have shorter := first.shorter ts
  rw [bind_run, bind_run]
  generalize p ts = o at shorter ⊢
  obtain ⟨issue | a, rest, raised⟩ := o
  · rfl
  · have fewer := Nat.lt_of_lt_of_le (shorter a rfl trivial) few
    rw [Outcome.bind_ok, Outcome.bind_ok, others _ fewer a rest (Nat.le_refl _)]

end Steps

/-- A loop is the same if its steps are. -/
theorem SameUpTo.iterate {step step' : α → StageParser (Option α)}
    (same : ∀ a, SameUpTo n (step a) (step' a)) (a : α) :
    SameUpTo n (iterate step a) (iterate step' a) := by
  intro ts few
  have here := same a ts few
  fun_induction Parser.iterate step a ts with
  | case1 a ts issue rest raised found => rw [iterate_of_error (here ▸ found)]
  | case2 a ts rest raised found => rw [iterate_of_none (here ▸ found)]
  | case3 a ts a' rest raised found shorter ih =>
    have shorter : rest.length < ts.length := shorter
    have left : rest.length ≤ n := Nat.le_trans (Nat.le_of_lt shorter) few
    rw [iterate_of_some (here ▸ found) shorter, ih left (same a' rest left)]
  | case4 a ts a' rest raised found stuck =>
    rw [Parser.iterate, ← here, found]
    simp only [if_neg stuck]

/-- A parser that refers to itself only on fewer lexemes is what its body makes of it. -/
theorem fix_eq {f : StageParser α → StageParser α} (forward : Advances (fix f))
    (same : ∀ p q n, Advances p → (∀ m < n, SameUpTo m p q) → SameUpTo n (f p) (f q)) :
    fix f = f (fix f) := by
  funext ts
  rw [fix_run]
  symm
  refine same _ _ ts.length forward (fun m fewer us few => ?_) ts (Nat.le_refl _)
  exact (if_pos (Nat.lt_of_le_of_lt few fewer)).symm

theorem SameUpTo.list [Advances p] (same : SameUpTo n p q) : SameUpTo n (list p) (list q) := by
  have item (as : List α) : SameUpTo n (do return (← p) :: as) (do return (← q) :: as) :=
    same.bind fun a => .refl _
  refine .bind (.bind (item []) fun as => .iterate (fun as => ?_) as) fun as => .refl _
  refine .bind (.refl _) fun comma => ?_
  split
  · exact (item as).bind fun as => .refl _
  · exact .refl _

section Levels

variable {p q operand operand' additive deeper : StageParser Expr}
  {op? : StageParser (Option BinaryOp)}

theorem SameUpTo.chain (h : Consumes operand) [Advances op?] (same : SameUpTo n operand operand') :
    SameUpTo n (chain operand op?) (chain operand' op?) := by
  have := h.advances
  refine same.bind fun first => .iterate (fun left => ?_) first
  refine .bind (.refl _) fun op => ?_
  cases op with
  | none => exact .refl _
  | some op => exact same.bind fun right => .refl _

theorem SameUpTo.logical (h : Consumes operand) (same : SameUpTo n operand operand') :
    SameUpTo n (logical operand) (logical operand') :=
  .chain (consumes_chain (consumes_chain h)) (.chain (consumes_chain h) (.chain h same))

theorem SameUpTo.comparisonTail? [Advances p] (same : SameUpTo n p q) (left : Expr) :
    SameUpTo n (comparisonTail? additive p left) (comparisonTail? additive q left) := by
  refine .bind (.refl _) fun found => ?_
  split
  · exact .bind (.bind (.refl _) fun _ => same.list.bind fun items => .refl _) fun items => .refl _
  · exact .refl _

/-- The list of a membership test stands behind a sum. -/
theorem SameUpTo.comparison (h : Consumes additive) [Advances p] (same : ∀ m < n, SameUpTo m p q) :
    SameUpTo n (comparison additive p) (comparison additive q) :=
  have := h.advances
  .behind h fun m fewer left => .bind ((same m fewer).comparisonTail? left) fun _ => .refl _

theorem SameUpTo.negation [Advances operand] (same : SameUpTo n operand operand') :
    SameUpTo n (negation deeper operand) (negation deeper operand') := by
  refine .bind (.refl _) fun found => ?_
  split
  · exact .refl _
  · exact same

end Levels

end Parser

namespace Grammar

open PipedQuery.Parser

theorem expression_ofUnary {unary deeperNegation : StageParser Expr} (hunary : Parser.Consumes unary)
    (hdeeper : Parser.Consumes deeperNegation) :
    (ofUnary unary deeperNegation).expression = logical (ofUnary unary deeperNegation).negation := by
  have grammar := consumes_ofUnary hunary hdeeper
  refine fix_eq grammar.expression.advances fun p q n forward same => ?_
  have comparison := consumes_comparison p grammar.additive
  have := comparison.advances
  exact .logical (consumes_negation hdeeper comparison)
    (SameUpTo.comparison grammar.additive same).negation

/-- An expression consists of conditions joined by logical operators, and the lists of membership
    tests in them consist of such expressions. -/
theorem expression_level (n : Nat) : (level n).expression = logical (level n).negation := by
  cases n with
  | zero => exact expression_ofUnary (consumesIf_fail _) (consumesIf_fail _)
  | succ n =>
    have deeper := consumes_level n
    exact expression_ofUnary (consumes_signed deeper) deeper.negation

end Grammar

end PipedQuery
