import PipedQuery.Proofs.Grammar.Calls
import PipedQuery.Proofs.Grammar.Primary

/-!
# Reading expressions back

The grammar reads the lexemes of a readable expression back, before everything that ends an
expression and at every level that leaves room for the nesting (`Expr.Readable.readsBack`).
-/

namespace PipedQuery

open PipedQuery.Parser Grammar

namespace Follow

theorem ofKind_mark {m : Mark} (h : m = .rParen ∨ m = .comma) :
    ofKind (some (.mark m)) = .other := by
  rcases h with rfl | rfl <;> simp [ofKind, startsIntervalValue]

theorem ofKind_keyword (k : Keyword) : ofKind (some (.keyword k)) = .other := by
  simp [ofKind, startsIntervalValue]

end Follow

namespace Expr

/-- Whether the grammar reads the lexemes of the expression back before what `follow` says.  An
    operand is read by the parser of signed operands, and the rest as a whole. -/
structure ReadsBack (follow : Follow) (e : Expr) : Prop where
  whole : ∀ {n} (rest), e.levels ≤ n → Closes rest → Follow.ofKind (firstKind rest) = follow →
    (level n).expression (e.lexemes ++ rest) = ⟨.ok e, rest, []⟩
  sum : e.isSum = true → ∀ {n rest}, e.levels ≤ n → Closes rest →
    Follow.ofKind (firstKind rest) = follow →
    (level n).additive (e.lexemes ++ rest) = ⟨.ok e, rest, []⟩
  operand : e.needsParens = false → ∀ {n rest}, e.levels ≤ n → EndsOperand rest →
    Follow.ofKind (firstKind rest) = follow →
    (level n).unary (e.lexemes ++ rest) = ⟨.ok e, rest, []⟩
  starts : StartsArgument e.lexemes
  start : e.needsParens = false → firstKind e.lexemes ≠ some (.keyword .not_) ∧
    firstKind e.lexemes ≠ some (.mark .lParen)

variable {follow : Follow} {e left right : Expr} {op : BinaryOp} {n : Nat} {rest ts : List Lexeme}

theorem behind_other (e : Expr) : e.behind .other = .other := by
  simp [behind]

section Operands

/-- An operand that needs parentheses is written in them. -/
theorem operandLexemes_of_parens (needed : e.needsParens = true) (ts : List Lexeme) :
    e.operandLexemes ++ ts = .mark .lParen :: (e.lexemes ++ .mark .rParen :: ts) := by
  simp [operandLexemes, needed, parenLexemes]

/-- An operand that needs none is written as it is. -/
theorem operandLexemes_of_not_parens (free : e.needsParens = false) :
    e.operandLexemes = e.lexemes := by
  simp [operandLexemes, free, parenLexemes]

/-- An operand is read back, with its parentheses if it has any. -/
theorem ReadsBack.unary_operand (reads : ReadsBack (e.behind follow) e) (rest : List Lexeme)
    (room : e.operandLevels ≤ n) (ends : EndsOperand rest)
    (follows : Follow.ofKind (firstKind rest) = follow) :
    (level n).unary (e.operandLexemes ++ rest) = ⟨.ok e, rest, []⟩ := by
  cases needed : e.needsParens with
  | false =>
    rw [behind, needed] at reads
    rw [operandLexemes_of_not_parens needed]
    exact reads.operand needed (by simpa [operandLevels, needed] using room) ends follows
  | true =>
    rw [behind, needed] at reads
    rw [operandLexemes_of_parens needed]
    have room : e.levels + 1 ≤ n := by simpa [operandLevels, needed] using room
    obtain ⟨m, rfl⟩ : ∃ m, n = m + 1 := ⟨n - 1, by omega⟩
    refine unary_group (reads.whole _ (by omega) (closes_mark (.inl rfl) rest) ?_)
    exact Follow.ofKind_mark (.inl rfl)

/-- An operand starts as an argument does. -/
theorem ReadsBack.starts_operand (reads : ReadsBack follow e) :
    StartsArgument e.operandLexemes := by
  cases needed : e.needsParens with
  | false =>
    rw [operandLexemes_of_not_parens needed]
    exact reads.starts
  | true =>
    rw [← List.append_nil e.operandLexemes, operandLexemes_of_parens needed]
    exact startsArgument_cons (by simp) _

/-- An operand does not start with `not`, which would be written in parentheses. -/
theorem ReadsBack.operand_ne_not (reads : ReadsBack follow e) (ts : List Lexeme) :
    firstKind (e.operandLexemes ++ ts) ≠ some (.keyword .not_) := by
  cases needed : e.needsParens with
  | false =>
    rw [operandLexemes_of_not_parens needed, firstKind_append reads.starts.nonempty]
    exact (reads.start needed).1
  | true =>
    rw [operandLexemes_of_parens needed]
    simp

/-- An operand is a sum of its own. -/
theorem ReadsBack.sum_operand (reads : ReadsBack (e.behind follow) e) (rest : List Lexeme)
    (room : e.operandLevels ≤ n) (ends : EndsOperand rest) (endsSum : EndsSum rest)
    (follows : Follow.ofKind (firstKind rest) = follow) :
    (level n).additive (e.operandLexemes ++ rest) = ⟨.ok e, rest, []⟩ := by
  rw [additive_level]
  exact sum_of_unary (reads.unary_operand rest room ends follows) endsSum

/-- What reads back as an operand without parentheses reads back everywhere. -/
theorem ReadsBack.of_operand
    (operand : ∀ {n rest}, e.levels ≤ n → EndsOperand rest →
      Follow.ofKind (firstKind rest) = follow →
      (level n).unary (e.lexemes ++ rest) = ⟨.ok e, rest, []⟩)
    (starts : StartsArgument e.lexemes)
    (start : firstKind e.lexemes ≠ some (.keyword .not_) ∧
      firstKind e.lexemes ≠ some (.mark .lParen)) : ReadsBack follow e := by
  have sum : ∀ {n rest}, e.levels ≤ n → Closes rest → Follow.ofKind (firstKind rest) = follow →
      (level n).additive (e.lexemes ++ rest) = ⟨.ok e, rest, []⟩ := by
    intro n rest room closes follows
    rw [additive_level]
    exact sum_of_unary (operand room closes.endsOperand follows) closes.endsComparison.1
  refine ⟨fun {n} rest room closes follows => ?_, fun _ => sum, fun _ => operand, starts,
    fun _ => start⟩
  refine expression_of_sum ?_ (sum room closes follows) closes
  rw [firstKind_append starts.nonempty]
  exact start.1

/-! Arguments. -/

/-- A comma and a closing parenthesis end an argument. -/
theorem closes_argument {l : Lexeme} (ends : l.kind = .mark .comma ∨ l.kind = .mark .rParen)
    (ts : List Lexeme) :
    Closes (l :: ts) ∧ Follow.ofKind (firstKind (l :: ts)) = .other := by
  constructor
  · rintro l' ⟨⟩
    exact ends.elim (fun comma => .inr (.inl comma)) .inl
  · rcases ends with kind | kind
    · rw [firstKind_cons, kind]
      exact Follow.ofKind_mark (.inr rfl)
    · rw [firstKind_cons, kind]
      exact Follow.ofKind_mark (.inl rfl)

/-- An expression that reads back is read as an argument where there is room for its levels. -/
theorem ReadsBack.readsArgument (reads : ReadsBack .other e) (room : e.levels ≤ n) :
    ReadsArgument (level n).expression e := fun _ ts ends =>
  reads.whole _ room (closes_argument ends ts).1 (closes_argument ends ts).2

/-- A sum that reads back is read as an argument even where comparisons are not. -/
theorem ReadsBack.readsArgument_sum (reads : ReadsBack .other e) (isSum : e.isSum = true)
    (room : e.levels ≤ n) : ReadsArgument (level n).additive e := fun _ ts ends =>
  reads.sum isSum room (closes_argument ends ts).1 (closes_argument ends ts).2

end Operands

section Leaves

theorem exists_of_levels (positive : 1 ≤ e.levels) (room : e.levels ≤ n) : ∃ m, n = m + 1 :=
  ⟨n - 1, by omega⟩

/-- A lexeme that is no unit, no sign and no parenthesis starts an operand. -/
theorem starts_cons {l : Lexeme}
    (h : l.kind ≠ .mark .rParen ∧ l.kind ≠ .mark .lBracket ∧ l.kind ≠ .mark .lParen ∧
      ∀ k : Keyword, l.kind = .keyword k → k.isIntervalUnit = false ∧ k ≠ .not_) (ls : List Lexeme) :
    StartsArgument (l :: ls) ∧ firstKind (l :: ls) ≠ some (.keyword .not_) ∧
      firstKind (l :: ls) ≠ some (.mark .lParen) := by
  obtain ⟨noEnd, noFields, noParen, noUnit⟩ := h
  refine ⟨startsArgument_cons ⟨noEnd, noFields, fun k kind => (noUnit k kind).1⟩ ls, ?_, ?_⟩
  · intro sign
    exact (noUnit .not_ (by simpa using sign)).2 rfl
  · simpa using noParen

theorem starts_keyword {k : Keyword} (h : k.isIntervalUnit = false ∧ k ≠ .not_)
    (ls : List Lexeme) :
    StartsArgument (k.lexeme :: ls) ∧ firstKind (k.lexeme :: ls) ≠ some (.keyword .not_) ∧
      firstKind (k.lexeme :: ls) ≠ some (.mark .lParen) := by
  refine starts_cons ⟨by simp, by simp, by simp, ?_⟩ ls
  rintro _ ⟨⟩
  exact h

/-- A constant starts neither with `not` nor with a parenthesis. -/
theorem starts_literal (value : Literal) : StartsArgument value.lexemes ∧
    firstKind value.lexemes ≠ some (.keyword .not_) ∧
    firstKind value.lexemes ≠ some (.mark .lParen) := by
  cases value with
  | int v =>
    by_cases negative : v < 0
    · rw [Literal.lexemes, if_pos negative]
      exact starts_cons (by simp) _
    · rw [Literal.lexemes, if_neg negative]
      exact starts_cons (by simp) _
  | decimal d =>
    have kinds : d.lexeme.kind = .integer ∨ d.lexeme.kind = .decimal := by
      have isNumber := d.lexeme_isNumber
      cases kind : d.lexeme.kind <;> simp_all [TokenKind.isNumber]
    cases negative : d.negative
    · rw [Literal.lexemes, Decimal.lexemes, negative, if_neg (by simp)]
      refine starts_cons ?_ _
      rcases kinds with kind | kind <;> simp [kind]
    · rw [Literal.lexemes, Decimal.lexemes, negative, if_pos rfl]
      exact starts_cons (by simp) _
  | str s => exact starts_cons (by simp) _
  | bool b =>
    cases b <;> exact starts_keyword ⟨rfl, by decide⟩ _
  | date kind s =>
    cases kind <;> exact starts_keyword ⟨rfl, by decide⟩ _

/-- A constant without a sign reads back in front of anything. -/
theorem readsBack_literal {value : Literal} (constant : value.IsUnsigned) :
    ReadsBack follow (.literal value) := by
  obtain ⟨starts, start⟩ := starts_literal value
  refine .of_operand (fun {n rest} room ends follows => ?_) starts start
  obtain ⟨m, rfl⟩ := exists_of_levels (by simp [levels]) room
  exact unary_literal constant rest

theorem startsArgument_nameLexemes (name : String) : StartsArgument (nameLexemes name) := by
  unfold nameLexemes
  split
  · obtain ⟨part, parts, split, -⟩ := exists_dottedParts name.toList
    rw [split, dottedLexemes]
    refine startsArgument_word _ ?_
    cases parts <;> simp
  · exact startsArgument_cons (by simp) []

/-- A name starts neither with `not` nor with a parenthesis. -/
theorem start_nameLexemes (name : String) :
    firstKind (nameLexemes name) ≠ some (.keyword .not_) ∧
      firstKind (nameLexemes name) ≠ some (.mark .lParen) := by
  have form : primaryForm (nameLexemes name ++ []) = .field :=
    primaryForm_nameLexemes (by simp [EndsOperand]) (not_captures_other name)
  rw [List.append_nil] at form
  refine ⟨ne_not_of_form (by simp [form]), ?_⟩
  intro paren
  simp [primaryForm, paren] at form

/-- A field reads back where what follows does not take its name for something else. -/
theorem readsBack_field {name : String} (free : ¬follow.captures name) :
    ReadsBack follow (.field name) := by
  refine .of_operand (fun {n rest} room ends follows => ?_) (startsArgument_nameLexemes name)
    (start_nameLexemes name)
  obtain ⟨m, rfl⟩ := exists_of_levels (by simp [levels]) room
  exact unary_field ends (follows ▸ free)

end Leaves

section Signs

/-- In front of a logical operator a comparison has ended. -/
theorem endsComparison_operator {ts : List Lexeme} (isLogical : op.isLogical = true) :
    EndsComparison (op.lexeme :: ts) := by
  cases op <;> first
    | exact ⟨⟨rfl, rfl⟩, rfl, by simp [BinaryOp.kind]⟩
    | cases isLogical

/-- Signs and what they are in front of. -/
theorem readsBack_sign {sign : UnaryOp} (notNot : sign ≠ .not)
    (reads : ReadsBack (e.behind follow) e) : ReadsBack follow (.unary sign e) := by
  refine .of_operand (fun {n rest} room ends follows => ?_) ?_ ?_
  · rw [levels] at room
    obtain ⟨m, rfl⟩ : ∃ m, n = m + 1 := ⟨n - 1, by omega⟩
    have found := reads.unary_operand (n := m) rest (by rw [operandLevels]; omega) ends follows
    cases sign with
    | not => exact absurd rfl notNot
    | negate => exact unary_minus found
    | plus => exact unary_plus found
  · cases sign with
    | not => exact absurd rfl notNot
    | negate => exact startsArgument_cons (by simp [UnaryOp.lexeme]) _
    | plus => exact startsArgument_cons (by simp [UnaryOp.lexeme]) _
  · cases sign with
    | not => exact absurd rfl notNot
    | negate => simp [lexemes, UnaryOp.lexeme]
    | plus => simp [lexemes, UnaryOp.lexeme]

/-- A negation. -/
theorem readsBack_not (reads : ReadsBack (e.behind follow) e) :
    ReadsBack follow (.unary .not e) := by
  refine ⟨fun {n} rest room closes follows => ?_, by simp [isSum, needsParens],
    by simp [needsParens], startsArgument_keyword rfl _, by simp [needsParens]⟩
  rw [levels] at room
  obtain ⟨m, rfl⟩ : ∃ m, n = m + 1 := ⟨n - 1, by omega⟩
  have operand := reads.sum_operand (n := m) rest (by rw [operandLevels]; omega) closes.endsOperand
    closes.endsComparison.1 follows
  have negated : deeperNegation (m + 1) (e.operandLexemes ++ rest) = ⟨.ok e, rest, []⟩ := by
    rw [deeperNegation, negation_level]
    exact negation_of_sum (reads.operand_ne_not rest) operand closes.endsComparison
  rw [expression_level, negation_level]
  exact logical_of_closes (negation_of_eq _ _ rfl negated) closes

end Signs

section Operators

theorem length_le_append (ls rest : List Lexeme) : rest.length ≤ (ls ++ rest).length := by
  simp

/-- A product or a sum of two operands. -/
theorem additive_binary (tight : op.looseness ≤ 2)
    (first : ReadsBack (left.behind (.ofKind (some op.kind))) left)
    (second : ReadsBack (right.behind follow) right) {n : Nat} {rest : List Lexeme}
    (room : (binary op left right).levels ≤ n) (closes : Closes rest)
    (follows : Follow.ofKind (firstKind rest) = follow) :
    (level n).additive ((binary op left right).lexemes ++ rest) =
      ⟨.ok (.binary op left right), rest, []⟩ := by
  rw [levels, Nat.max_le] at room
  have found := first.unary_operand (op.lexeme :: (right.operandLexemes ++ rest)) room.1
    (endsOperand_operator op _) (by simp)
  have follow := second.unary_operand rest room.2 closes.endsOperand follows
  rw [additive_level, lexemes, List.append_assoc, List.cons_append]
  exact sum_of_binary tight found follow closes.endsComparison.1 (length_le_append _ rest)

/-- A comparison of two operands. -/
theorem comparison_binary (isComparison : op.isComparison = true)
    (notCall : op = .like → right.needsParens = false)
    (first : ReadsBack (left.behind (.ofKind (some op.kind))) left)
    (second : ReadsBack (right.behind follow) right) {n : Nat} {rest : List Lexeme}
    (room : (binary op left right).levels ≤ n) (closes : Closes rest)
    (follows : Follow.ofKind (firstKind rest) = follow) (expression : StageParser Expr) :
    comparison (level n).additive expression ((binary op left right).lexemes ++ rest) =
      ⟨.ok (.binary op left right), rest, []⟩ := by
  rw [levels, Nat.max_le] at room
  have endsSum : EndsSum (op.lexeme :: (right.operandLexemes ++ rest)) := by
    cases op <;> first
      | exact ⟨rfl, rfl⟩
      | cases isComparison
  have found := first.sum_operand (op.lexeme :: (right.operandLexemes ++ rest)) room.1
    (endsOperand_operator op _) endsSum (by simp)
  have follow := second.sum_operand rest room.2 closes.endsOperand closes.endsComparison.1 follows
  have operator : comparison? (op.lexeme :: (right.operandLexemes ++ rest)) = some op := by
    cases op with
    | like =>
      have free := notCall rfl
      rw [operandLexemes_of_not_parens free]
      have start := (second.start free).2
      rw [← firstKind_append second.starts.nonempty rest] at start
      simp [comparison?, BinaryOp.kind, start]
    | _ => first
      | rfl
      | cases isComparison
  rw [lexemes, List.append_assoc, List.cons_append]
  exact (comparison_of_some expression found operator follow).trans
    (if_neg (by simp [closes.startsComparison]))

/-- An operator between two operands. -/
theorem readsBack_binary (notCall : op = .like → right.needsParens = false)
    (first : ReadsBack (left.behind (.ofKind (some op.kind))) left)
    (second : ReadsBack (right.behind follow) right) : ReadsBack follow (.binary op left right) := by
  have noNot : ∀ ts, firstKind ((binary op left right).lexemes ++ ts) ≠ some (.keyword .not_) := by
    intro ts
    rw [lexemes, List.append_assoc]
    exact first.operand_ne_not _
  have noFrom : firstKind (op.lexeme :: right.operandLexemes) ≠ some (.keyword .from_) := by
    cases op <;> simp [BinaryOp.kind]
  refine ⟨fun {n} rest room closes follows => ?_, fun tight {n rest} room closes follows => ?_,
    by simp [needsParens], first.starts_operand.append noFrom, by simp [needsParens]⟩
  · have kinds : op.looseness ≤ 2 ∨ op.isComparison = true ∨ op.isLogical = true := by
      cases op <;> simp [BinaryOp.looseness, BinaryOp.isComparison, BinaryOp.isLogical]
    rcases kinds with tight | isComparison | isLogical
    · exact expression_of_sum (noNot rest)
        (additive_binary tight first second room closes follows) closes
    · rw [expression_level, negation_level]
      refine logical_of_closes ?_ closes
      rw [negation_of_ne _ _ (noNot rest)]
      exact comparison_binary isComparison notCall first second room closes follows _
    · rw [levels, Nat.max_le] at room
      have ends : EndsComparison (op.lexeme :: (right.operandLexemes ++ rest)) :=
        endsComparison_operator isLogical
      have found := first.sum_operand (op.lexeme :: (right.operandLexemes ++ rest)) room.1
        (endsOperand_operator op _) ends.1 (by simp)
      have follow := second.sum_operand rest room.2 closes.endsOperand closes.endsComparison.1 follows
      rw [expression_level, negation_level, lexemes, List.append_assoc, List.cons_append]
      refine logical_of_binary isLogical (negation_of_sum (first.operand_ne_not _) found ends)
        (negation_of_sum (second.operand_ne_not _) follow closes.endsComparison) closes
        (length_le_append _ rest)
  · exact additive_binary (by simpa [isSum] using tight) first second room closes follows

/-- A membership test.  Its list is read by the parser of its own level. -/
theorem readsBack_inList {item : Expr} {list : List Expr} (nonempty : list ≠ [])
    (first : ReadsBack .other item) (others : ∀ e ∈ list, ReadsBack .other e) :
    ReadsBack follow (.inList item list) := by
  refine ⟨fun {n} rest room closes _ => ?_, by simp [isSum, needsParens], by simp [needsParens],
    ?_, by simp [needsParens]⟩
  · rw [levels, Nat.max_le, listLevels_le] at room
    cases list with
    | nil => exact absurd rfl nonempty
    | cons e es =>
      have written : (inList item (e :: es)).lexemes ++ rest =
          item.operandLexemes ++ Keyword.in_.lexeme :: .mark .lParen ::
            (commaLexemes ((e :: es).map lexemes) ++ .mark .rParen :: rest) := by
        simp [lexemes, listLexemes_eq_map, listLexemes, operandLexemes]
      have reads := readsItems_arguments
        (fun e' member => (others e' member).readsArgument (room.2 e' member)) rest
      have found := ReadsBack.sum_operand (n := n) (item.behind_other.symm ▸ first)
        (Keyword.in_.lexeme :: .mark .lParen ::
          (commaLexemes ((e :: es).map lexemes) ++ .mark .rParen :: rest)) room.1
        (endsOperand_keyword _ _) ⟨rfl, rfl⟩ (Follow.ofKind_keyword .in_)
      rw [written, expression_level, negation_level]
      refine logical_of_closes ?_ closes
      rw [negation_of_ne _ _ (first.operand_ne_not _)]
      exact comparison_of_in found rfl (valueList_run reads) closes.startsComparison
  · exact first.starts_operand.append (by simp)

end Operators

section Forms

/-- A stretch of time. -/
theorem readsBack_interval {unit : Keyword} (isUnit : unit.isIntervalUnit = true)
    (starts : (firstKind e.operandLexemes).any startsIntervalValue = true)
    (reads : ReadsBack .other e) : ReadsBack follow (.interval e unit) := by
  refine .of_operand (fun {n rest} room _ _ => ?_) (startsArgument_keyword rfl _) (by simp [lexemes])
  rw [levels] at room
  obtain ⟨m, rfl⟩ : ∃ m, n = m + 1 := ⟨n - 1, by omega⟩
  have found := ReadsBack.sum_operand (n := m) (e.behind_other.symm ▸ reads) (unit.lexeme :: rest)
    (by rw [operandLevels]; omega) (endsOperand_keyword _ _)
    ⟨rfl, rfl⟩ (Follow.ofKind_keyword unit)
  have written : (interval e unit).lexemes ++ rest =
      Keyword.interval.lexeme :: (e.operandLexemes ++ unit.lexeme :: rest) := by
    simp [lexemes, operandLexemes]
  rw [← firstKind_append reads.starts_operand.nonempty (unit.lexeme :: rest)] at starts
  have form := primaryForm_interval starts
  rw [written, unary_of_form (by simp [form])]
  simp [primary, form, interval_run isUnit _ found]

/-- A conversion. -/
theorem readsBack_cast (target : DataType) (reads : ReadsBack .other e) :
    ReadsBack follow (.cast e target) := by
  refine .of_operand (fun {n rest} room _ _ => ?_) (startsArgument_keyword rfl _) (by simp [lexemes])
  rw [levels] at room
  obtain ⟨m, rfl⟩ : ∃ m, n = m + 1 := ⟨n - 1, by omega⟩
  have found := reads.whole (n := m)
    (Keyword.as_.lexeme :: target.keyword.lexeme :: .mark .rParen :: rest) (by omega)
    (by rintro l ⟨⟩; simp) (Follow.ofKind_keyword .as_)
  have written : (cast e target).lexemes ++ rest = Keyword.cast.lexeme :: .mark .lParen ::
      (e.lexemes ++ Keyword.as_.lexeme :: target.keyword.lexeme :: .mark .rParen :: rest) := by
    simp [lexemes]
  have form := primaryForm_cast
    (e.lexemes ++ Keyword.as_.lexeme :: target.keyword.lexeme :: .mark .rParen :: rest)
  rw [written, unary_of_form (by simp [form])]
  simp [primary, form, cast_run _ target found]

end Forms

section Choices

variable {branches : List (Expr × Expr)}

/-- The lexemes of a branch of a choice. -/
def branchLexeme (b : Expr × Expr) : List Lexeme := b.1.lexemes ++ .mark .comma :: b.2.lexemes

/-- A branch reads back if its condition and its value do. -/
theorem branch_readsBack {b : Expr × Expr} {behind : Follow}
    (condition : ReadsBack .other b.1) (value : ReadsBack behind b.2)
    (room : b.1.levels ≤ n ∧ b.2.levels ≤ n) (closes : Closes rest)
    (follows : Follow.ofKind (firstKind rest) = behind) :
    branch (level n).expression (branchLexeme b ++ rest) = ⟨.ok b, rest, []⟩ := by
  have first := condition.whole (.mark .comma :: (b.2.lexemes ++ rest)) room.1
    (closes_mark (.inr rfl) _) (Follow.ofKind_mark (.inr rfl))
  rw [branchLexeme, List.append_assoc, List.cons_append]
  exact branch_run first (value.whole rest room.2 closes follows)

/-- The branches of a choice are read back, in front of its end or of its fallback. -/
theorem branches_readsBack {behind : Follow} (rest : List Lexeme) (nonempty : branches ≠ [])
    (conditions : ∀ b ∈ branches, ReadsBack .other b.1)
    (values : ∀ b ∈ branches, ReadsBack .other b.2)
    (last : ∀ b ∈ branches.getLast?, ReadsBack behind b.2)
    (room : branchLevels branches ≤ n) (closes : Closes rest)
    (noComma : firstKind rest ≠ some (.mark .comma))
    (follows : Follow.ofKind (firstKind rest) = behind) :
    list (branch (level n).expression) (commaLexemes (branches.map branchLexeme) ++ rest) =
      ⟨.ok branches, rest, []⟩ := by
  rw [branchLevels_le] at room
  cases branches with
  | nil => exact absurd rfl nonempty
  | cons b bs =>
    refine list_run ⟨fun b' member more comma => ?_, fun b' member => ?_⟩ noComma
    · refine branch_readsBack (conditions b' member) (values b' member) (room b' member) ?_ ?_
      · intro l first
        cases more with
        | nil => simp at comma
        | cons l' more =>
          obtain rfl : l' = l := by simpa using first
          exact .inr (.inl (by simpa using comma))
      · rw [comma]
        exact Follow.ofKind_mark (.inr rfl)
    · have member' := List.mem_of_getLast? member
      exact branch_readsBack (conditions b' member') (last b' member) (room b' member') closes
        follows

/-- A choice. -/
theorem readsBack_case {fallback : Option Expr} (nonempty : branches ≠ [])
    (conditions : ∀ b ∈ branches, ReadsBack .other b.1)
    (values : ∀ b ∈ branches, ReadsBack .other b.2)
    (last : fallback.isSome → ∀ b ∈ branches.getLast?, ReadsBack .value b.2)
    (other : ∀ e ∈ fallback, ReadsBack .other e) : ReadsBack follow (.case branches fallback) := by
  have written : branchLexemes branches = branches.map branchLexeme := branchLexemes_eq_map branches
  cases fallback with
  | none =>
    refine .of_operand (fun {n rest} room _ _ => ?_) (startsArgument_keyword rfl _)
      (by simp [lexemes])
    rw [levels] at room
    obtain ⟨m, rfl⟩ : ∃ m, n = m + 1 := ⟨n - 1, by omega⟩
    have found := branches_readsBack (n := m) (.mark .rParen :: rest) nonempty conditions
      values (fun b member => values b (List.mem_of_getLast? member)) (by omega)
      (closes_mark (.inl rfl) rest) (by simp) (Follow.ofKind_mark (.inl rfl))
    have whole : (case branches none).lexemes ++ rest = Keyword.case.lexeme :: .mark .lParen ::
        (commaLexemes (branches.map branchLexeme) ++ .mark .rParen :: rest) := by
      simp [lexemes, written]
    have form := primaryForm_case (commaLexemes (branches.map branchLexeme) ++ .mark .rParen :: rest)
    rw [whole, unary_of_form (by simp [form])]
    simp [primary, form, case_run _ found]
  | some e =>
    refine .of_operand (fun {n rest} room _ _ => ?_) (startsArgument_keyword rfl _)
      (by simp [lexemes])
    rw [levels] at room
    obtain ⟨m, rfl⟩ : ∃ m, n = m + 1 := ⟨n - 1, by omega⟩
    generalize follows : e.lexemes ++ .mark .rParen :: rest = behind
    have word : isElse "else" = true := by decide +kernel
    have closes : Closes (⟨.identifier, "else"⟩ :: behind) := by
      rintro l ⟨⟩
      exact .inr (.inr (.inr ⟨rfl, word⟩))
    have found := branches_readsBack (n := m) _ nonempty conditions values (last rfl) (by omega) closes
      (by simp) (by simp [Follow.ofKind, startsIntervalValue])
    have fallback := (other e rfl).whole (n := m) _ (by omega) (closes_mark (.inl rfl) rest)
      (Follow.ofKind_mark (.inl rfl))
    have isElse : startsElse (⟨.identifier, "else"⟩ :: behind) = true := by simp [startsElse, word]
    have whole : (case branches (some e)).lexemes ++ rest = Keyword.case.lexeme ::
        .mark .lParen :: (commaLexemes (branches.map branchLexeme) ++
          ⟨.identifier, "else"⟩ :: behind) := by
      simp [lexemes, written, ← follows]
    rw [follows] at fallback
    have form := primaryForm_case (commaLexemes (branches.map branchLexeme) ++
      ⟨.identifier, "else"⟩ :: behind)
    rw [whole, unary_of_form (by simp [form])]
    simp [primary, form, case_else_run _ _ isElse found fallback]

end Choices

section Calls

variable {k : Keyword} {family : FunctionFamily} {args : List Expr} {options : List NamedOption}

/-- A call reads back if its arguments do. -/
theorem readsBack_of_callArguments (function : k.family? = some family) (notCast : k ≠ .cast)
    (accepted : k.arity?.all (fun a => a.accepts args.length) = true)
    (found : ∀ {n rest}, listLevels args ≤ n →
      callArguments (level n).expression (level n).additive k family
          (.mark .lParen :: (commaLexemes (args.map lexemes ++ options.map NamedOption.lexemes) ++
            .mark .rParen :: rest)) =
        ⟨.ok (args, options), .mark .rParen :: rest, []⟩) :
    ReadsBack follow (.call k.lowercase family args options) := by
  have written : ∀ rest, (call k.lowercase family args options).lexemes ++ rest =
      k.lexeme :: .mark .lParen :: (commaLexemes (args.map lexemes ++
        options.map NamedOption.lexemes) ++ .mark .rParen :: rest) := by
    intro rest
    simp [lexemes_call, Lexeme.word_lowercase]
  refine .of_operand (fun {n rest} room _ _ => ?_) ?_ ?_
  · rw [levels] at room
    obtain ⟨m, rfl⟩ : ∃ m, n = m + 1 := ⟨n - 1, by omega⟩
    have form := primaryForm_call function notCast (commaLexemes (args.map lexemes ++
      options.map NamedOption.lexemes) ++ .mark .rParen :: rest)
    rw [written, unary_of_form (by simp [form])]
    simp [primary, form, call_run k.lexeme accepted (found (n := m) (by omega))]
  · rw [lexemes]
    exact startsArgument_word _ (by simp)
  · have form := primaryForm_call function notCast (commaLexemes (args.map lexemes ++
      options.map NamedOption.lexemes) ++ [.mark .rParen])
    rw [← written, List.append_nil] at form
    refine ⟨ne_not_of_form (by simp [form]), ?_⟩
    intro paren
    simp [primaryForm, paren] at form

/-- A call of a function. -/
theorem readsBack_call (function : k.family? = some family) (notCast : k ≠ .cast)
    (accepted : k.arity?.all (fun a => a.accepts args.length) = true)
    (position : k = .position → ∀ e ∈ args.head?, e.isSum = true)
    (reads : ∀ e ∈ args, ReadsBack .other e)
    (onlyRelevance : options ≠ [] → family = .relevance)
    (readable : ∀ o ∈ options, o.IsReadable) :
    ReadsBack follow (.call k.lowercase family args options) := by
  refine readsBack_of_callArguments function notCast accepted fun {n rest} room => ?_
  rw [listLevels_le] at room
  have starts : ∀ e ∈ args, StartsArgument e.lexemes := fun e member => (reads e member).starts
  have arguments : ∀ e ∈ args, ReadsArgument (level n).expression e := fun e member =>
    (reads e member).readsArgument (room e member)
  by_cases relevance : family = .relevance
  · subst relevance
    have arity := Keyword.arity?_of_relevance function
    have two : args.length = 2 := by
      simp [arity, Arity.accepts, Arity.exactly] at accepted
      omega
    obtain ⟨first, second, rfl⟩ := List.length_eq_two.mp two
    refine callArguments_of_relevance function (relevanceArguments_run arity
      (starts first (by simp)).noEnd (starts first (by simp)).nonempty (fun ts => ?_)
      (starts second (by simp)) (arguments second (by simp)) readable rest)
    refine relevanceArgument_expression (by simp) rfl ?_ (arguments first (by simp) _ _ (.inl rfl))
    rw [firstKind_append (starts first (by simp)).nonempty]
    exact (starts first (by simp)).noFields
  · have none : options = [] := by
      by_contra some
      exact relevance (onlyRelevance some)
    subst none
    rw [List.map_nil, List.append_nil]
    by_cases extract : k = .extract
    · subst extract
      exact callArguments_of_extract (extractArguments_run starts arguments rest)
    · by_cases isPosition : k = .position
      · subst isPosition
        cases args with
        | nil => exact absurd accepted (by decide)
        | cons e args =>
          have isSum := position rfl e rfl
          exact callArguments_of_position (positionArguments_run
            ((reads e (by simp)).readsArgument_sum isSum (room e (by simp)))
            (fun e' member => arguments e' (by simp [member])) rest)
      · exact callArguments_of_arguments extract isPosition relevance
          (arguments_run starts arguments rest)

/-- A call of a relevance function over a list of weighted fields. -/
theorem readsBack_multiField {fields : List WeightedField} (function : k.isMultiField = true)
    (nonempty : fields ≠ []) (fields_readable : ∀ f ∈ fields, f.IsReadable)
    (reads : ReadsBack .other e) (readable : ∀ o ∈ options, o.IsReadable) :
    ReadsBack follow (.call k.lowercase .relevance [.weighted fields, e] options) := by
  have relevance := Keyword.family?_of_isMultiField function
  have arity := Keyword.arity?_of_relevance relevance
  have notCast : k ≠ .cast := by
    rintro rfl
    cases function
  refine readsBack_of_callArguments relevance notCast (by simp [arity, Arity.accepts, Arity.exactly])
    fun {n rest} room => ?_
  rw [listLevels_le] at room
  refine callArguments_of_relevance relevance (relevanceArguments_run arity (by simp [lexemes])
    (by simp [lexemes]) (fun ts => ?_) reads.starts (reads.readsArgument (room e (by simp)))
    readable rest)
  exact relevanceArgument_fields _ function (by simp [lexemes])
    (weightedFields_lexemes nonempty fields_readable _)

end Calls

/-- A readable expression reads back. -/
theorem Readable.readsBack (readable : Readable follow e) : ReadsBack follow e := by
  induction readable with
  | literal constant => exact readsBack_literal constant
  | field _ free => exact readsBack_field free
  | call function notCast accepted position _ onlyRelevance options_readable ih =>
    exact readsBack_call function notCast accepted position ih onlyRelevance options_readable
  | multiField function nonempty fields_readable _ options_readable ih =>
    exact readsBack_multiField function nonempty fields_readable ih options_readable
  | binary notCall _ _ ihl ihr => exact readsBack_binary notCall ihl ihr
  | @unary _ sign _ _ ih =>
    cases sign with
    | not => exact readsBack_not ih
    | negate => exact readsBack_sign (by simp) ih
    | plus => exact readsBack_sign (by simp) ih
  | inList nonempty _ _ ihi ihl => exact readsBack_inList nonempty ihi ihl
  | case nonempty _ _ _ _ ihc ihv ihl ihf => exact readsBack_case nonempty ihc ihv ihl ihf
  | cast _ ih => exact readsBack_cast _ ih
  | interval isUnit starts _ ih => exact readsBack_interval isUnit starts ih

end Expr

end PipedQuery
