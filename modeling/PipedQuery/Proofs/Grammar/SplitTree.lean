import PipedQuery.Proofs.Grammar.Operators

/-!
# Operator precedence

Operators of six precedence levels.  `splitTree` builds the tree of a chain of operands from the top
down: it splits the chain at the rightmost of its loosest operators.  Comparisons do not associate,
so no two of them may meet (`ComparisonsMeet`).
-/

namespace PipedQuery

namespace BinaryOp

theorem isComparison_iff {op : BinaryOp} : op.isComparison = true ↔ op.looseness = 3 := by
  cases op <;> decide

theorem isLogical_iff {op : BinaryOp} : op.isLogical = true ↔ 3 < op.looseness := by
  cases op <;> decide

end BinaryOp

/-- A chain of operands cut at one of its operators: the links before it, the operator, the operand
    behind it, and the links behind that. -/
structure ChainSplit where
  before : List (BinaryOp × Expr)
  op : BinaryOp
  operand : Expr
  behind : List (BinaryOp × Expr)

/-- Cuts a chain at the rightmost of its loosest operators, if it has any operator. -/
def splitLoosest : List (BinaryOp × Expr) → Option ChainSplit
  | [] => none
  | (op, e) :: links =>
    match splitLoosest links with
    | none => some ⟨[], op, e, links⟩
    | some s =>
      if s.op.looseness < op.looseness then some ⟨[], op, e, links⟩
      else some { s with before := (op, e) :: s.before }

theorem eq_of_splitLoosest {links : List (BinaryOp × Expr)} {s : ChainSplit}
    (h : splitLoosest links = some s) : links = s.before ++ (s.op, s.operand) :: s.behind := by
  induction links generalizing s with
  | nil => simp [splitLoosest] at h
  | cons link links ih =>
    obtain ⟨op, e⟩ := link
    unfold splitLoosest at h
    split at h
    · obtain rfl := Option.some.inj h
      rfl
    · next s' found =>
      split at h
      · obtain rfl := Option.some.inj h
        rfl
      · obtain rfl := Option.some.inj h
        rw [List.cons_append, ← ih found]

theorem length_of_splitLoosest {links : List (BinaryOp × Expr)} {s : ChainSplit}
    (h : splitLoosest links = some s) :
    s.before.length < links.length ∧ s.behind.length < links.length := by
  have := congrArg List.length (eq_of_splitLoosest h)
  simp only [List.length_append, List.length_cons] at this
  omega

/-- The tree of a chain of operands: a first one, and more of them behind operators. -/
def splitTree (first : Expr) (links : List (BinaryOp × Expr)) : Expr :=
  match found : splitLoosest links with
  | none => first
  | some s =>
    have := length_of_splitLoosest found
    .binary s.op (splitTree first s.before) (splitTree s.operand s.behind)
termination_by links.length

@[simp] theorem splitTree_nil (first : Expr) : splitTree first [] = first := by
  rw [splitTree]
  rfl

theorem splitLoosest_append {before behind : List (BinaryOp × Expr)} {op : BinaryOp} (e : Expr)
    (left : ∀ l ∈ before, l.1.looseness ≤ op.looseness)
    (right : ∀ l ∈ behind, l.1.looseness < op.looseness) :
    splitLoosest (before ++ (op, e) :: behind) = some ⟨before, op, e, behind⟩ := by
  induction before with
  | nil =>
    rw [List.nil_append, splitLoosest]
    cases found : splitLoosest behind with
    | none => rfl
    | some s =>
      have tighter := right (s.op, s.operand) (by simp [eq_of_splitLoosest found])
      simp only [if_pos tighter]
  | cons link before ih =>
    obtain ⟨op', e'⟩ := link
    have ih := ih fun l member => left l (List.mem_cons_of_mem _ member)
    have looser : ¬op.looseness < op'.looseness := Nat.not_lt.mpr (left (op', e') (by simp))
    rw [List.cons_append, splitLoosest, ih]
    simp only [if_neg looser]

/-- A chain is split at an operator that no other is looser than, if those behind it are tighter. -/
theorem splitTree_append (first : Expr) {before behind : List (BinaryOp × Expr)} {op : BinaryOp}
    (e : Expr) (left : ∀ l ∈ before, l.1.looseness ≤ op.looseness)
    (right : ∀ l ∈ behind, l.1.looseness < op.looseness) :
    splitTree first (before ++ (op, e) :: behind) =
      .binary op (splitTree first before) (splitTree e behind) := by
  have split := splitLoosest_append e left right
  rw [splitTree]
  split
  · next found => simp [split] at found
  · next s found =>
    obtain rfl := Option.some.inj (split.symm.trans found)
    rfl

/-- Whether a comparison comes in a chain of operators before any that joins conditions. -/
def ComparisonAhead (ops : List BinaryOp) : Prop :=
  ∃ between op behind, ops = between ++ op :: behind ∧ op.isComparison = true ∧
    ∀ o ∈ between, o.isLogical = false

/-- Whether two comparisons stand in a chain of operators with none between them that joins
    conditions. -/
def ComparisonsMeet (ops : List BinaryOp) : Prop :=
  ∃ before op behind, ops = before ++ op :: behind ∧ op.isComparison = true ∧
    ComparisonAhead behind

@[simp] theorem not_comparisonAhead_nil : ¬ComparisonAhead [] := by
  rintro ⟨between, op, behind, split, -⟩
  simp at split

@[simp] theorem not_comparisonsMeet_nil : ¬ComparisonsMeet [] := by
  rintro ⟨before, op, behind, split, -⟩
  simp at split

theorem comparisonAhead_cons {op : BinaryOp} {ops : List BinaryOp} :
    ComparisonAhead (op :: ops) ↔
      op.isComparison = true ∨ (op.isLogical = false ∧ ComparisonAhead ops) := by
  constructor
  · rintro ⟨between, o, behind, split, comparison, others⟩
    cases between with
    | nil =>
      obtain ⟨rfl, -⟩ := List.cons.inj split
      exact .inl comparison
    | cons o' between =>
      obtain ⟨rfl, rfl⟩ := List.cons.inj split
      exact .inr ⟨others op (by simp), between, o, behind, rfl, comparison,
        fun o member => others o (by simp [member])⟩
  · rintro (comparison | ⟨other, between, o, behind, rfl, comparison, others⟩)
    · exact ⟨[], op, ops, rfl, comparison, by simp⟩
    · refine ⟨op :: between, o, behind, rfl, comparison, ?_⟩
      simpa [other] using others

theorem comparisonsMeet_cons {op : BinaryOp} {ops : List BinaryOp} :
    ComparisonsMeet (op :: ops) ↔
      (op.isComparison = true ∧ ComparisonAhead ops) ∨ ComparisonsMeet ops := by
  constructor
  · rintro ⟨before, o, behind, split, comparison, ahead⟩
    cases before with
    | nil =>
      obtain ⟨rfl, rfl⟩ := List.cons.inj split
      exact .inl ⟨comparison, ahead⟩
    | cons o' before =>
      obtain ⟨rfl, rfl⟩ := List.cons.inj split
      exact .inr ⟨before, o, behind, rfl, comparison, ahead⟩
  · rintro (⟨comparison, ahead⟩ | ⟨before, o, behind, rfl, comparison, ahead⟩)
    · exact ⟨[], op, ops, rfl, comparison, ahead⟩
    · exact ⟨op :: before, o, behind, rfl, comparison, ahead⟩

instance decidableComparisonAhead : (ops : List BinaryOp) → Decidable (ComparisonAhead ops)
  | [] => .isFalse not_comparisonAhead_nil
  | _ :: ops =>
    have := decidableComparisonAhead ops
    decidable_of_iff' _ comparisonAhead_cons

instance decidableComparisonsMeet : (ops : List BinaryOp) → Decidable (ComparisonsMeet ops)
  | [] => .isFalse not_comparisonsMeet_nil
  | _ :: ops =>
    have := decidableComparisonsMeet ops
    decidable_of_iff' _ comparisonsMeet_cons

theorem ComparisonAhead.append_right {ops : List BinaryOp} (h : ComparisonAhead ops)
    (more : List BinaryOp) : ComparisonAhead (ops ++ more) := by
  obtain ⟨between, op, behind, rfl, rest⟩ := h
  exact ⟨between, op, behind ++ more, by simp, rest⟩

/-- No comparison is seen past an operator that joins conditions. -/
theorem ComparisonAhead.of_append_cons {ops more : List BinaryOp} {op : BinaryOp}
    (logical : op.isLogical = true) (h : ComparisonAhead (ops ++ op :: more)) :
    ComparisonAhead ops := by
  induction ops with
  | nil =>
    rcases comparisonAhead_cons.mp h with comparison | ⟨other, -⟩
    · cases op <;> simp [BinaryOp.isComparison, BinaryOp.isLogical] at comparison logical
    · simp [other] at logical
  | cons o ops ih =>
    rcases comparisonAhead_cons.mp h with comparison | ⟨other, ahead⟩
    · exact comparisonAhead_cons.mpr (.inl comparison)
    · exact comparisonAhead_cons.mpr (.inr ⟨other, ih ahead⟩)

namespace ComparisonsMeet

variable {ops more : List BinaryOp}

theorem append_right (h : ComparisonsMeet ops) (more : List BinaryOp) :
    ComparisonsMeet (ops ++ more) := by
  obtain ⟨before, op, behind, rfl, comparison, ahead⟩ := h
  exact ⟨before, op, behind ++ more, by simp, comparison, ahead.append_right more⟩

theorem append_left (h : ComparisonsMeet ops) (more : List BinaryOp) :
    ComparisonsMeet (more ++ ops) := by
  obtain ⟨before, op, behind, rfl, rest⟩ := h
  exact ⟨more ++ before, op, behind, by simp, rest⟩

/-- Comparisons meet only where there are two of them. -/
theorem two_le_countP (h : ComparisonsMeet ops) : 2 ≤ ops.countP BinaryOp.isComparison := by
  obtain ⟨before, a, behind, rfl, first, between, b, others, rfl, second, -⟩ := h
  simp only [List.countP_append, List.countP_cons, first, second, if_true]
  omega

theorem not_of_countP (one : ops.countP BinaryOp.isComparison ≤ 1) : ¬ComparisonsMeet ops := by
  intro h
  have := h.two_le_countP
  omega

/-- Comparisons that meet in a joined chain meet on one side, if a condition ends at the joint. -/
theorem of_append_cons {op : BinaryOp} (logical : op.isLogical = true)
    (h : ComparisonsMeet (ops ++ op :: more)) : ComparisonsMeet ops ∨ ComparisonsMeet more := by
  induction ops with
  | nil =>
    rcases comparisonsMeet_cons.mp h with ⟨comparison, -⟩ | meet
    · cases op <;> simp [BinaryOp.isComparison, BinaryOp.isLogical] at comparison logical
    · exact .inr meet
  | cons o ops ih =>
    rcases comparisonsMeet_cons.mp h with ⟨comparison, ahead⟩ | meet
    · exact .inl (comparisonsMeet_cons.mpr (.inl ⟨comparison, ahead.of_append_cons logical⟩))
    · rcases ih meet with meet | meet
      · exact .inl (comparisonsMeet_cons.mpr (.inr meet))
      · exact .inr meet

end ComparisonsMeet

end PipedQuery
