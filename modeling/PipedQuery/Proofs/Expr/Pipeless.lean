import PipedQuery.Proofs.Expr.Readable

/-!
# Expressions stay in their stage

No lexeme of a canonical expression is a pipe, so a pipe never cuts one apart.
-/

namespace PipedQuery

/-- Whether no lexeme is a pipe. -/
def Pipeless (ls : List Lexeme) : Prop := ∀ l ∈ ls, l.kind ≠ .mark .pipe

@[simp] theorem pipeless_nil : Pipeless [] := by simp [Pipeless]

@[simp] theorem pipeless_cons {l : Lexeme} {ls : List Lexeme} :
    Pipeless (l :: ls) ↔ l.kind ≠ .mark .pipe ∧ Pipeless ls := by
  simp [Pipeless]

@[simp] theorem pipeless_append {ls more : List Lexeme} :
    Pipeless (ls ++ more) ↔ Pipeless ls ∧ Pipeless more := by
  simp only [Pipeless, List.forall_mem_append]

theorem pipeless_flatMap {α : Type} {items : List α} {lex : α → List Lexeme}
    (h : ∀ a ∈ items, Pipeless (lex a)) : Pipeless (items.flatMap lex) := by
  intro l member
  obtain ⟨a, found, inside⟩ := List.mem_flatMap.mp member
  exact h a found l inside

theorem pipeless_commaLexemes {lss : List (List Lexeme)} (h : ∀ ls ∈ lss, Pipeless ls) :
    Pipeless (commaLexemes lss) := by
  cases lss with
  | nil => exact pipeless_nil
  | cons ls lss =>
    rw [commaLexemes, pipeless_append]
    refine ⟨h ls (by simp), pipeless_flatMap fun ls' member => ?_⟩
    simp [h ls' (by simp [member])]

theorem pipeless_parenLexemes (needed : Bool) {ls : List Lexeme} (h : Pipeless ls) :
    Pipeless (parenLexemes needed ls) := by
  cases needed <;> simp [parenLexemes, h]

theorem pipeless_nameLexemes (name : String) : Pipeless (nameLexemes name) := by
  unfold nameLexemes
  split
  · cases dottedParts name.toList with
    | nil => exact pipeless_nil
    | cons part parts =>
      have others : Pipeless (parts.flatMap fun p => [.mark .dot, .word (String.ofList p)]) :=
        pipeless_flatMap fun p _ => by simp [Scan.word_ne_mark]
      simp [dottedLexemes, Scan.word_ne_mark, others]
  · simp

theorem Decimal.pipeless_lexemes (d : Decimal) : Pipeless d.lexemes := by
  have kind : d.lexeme.kind ≠ .mark .pipe := by
    by_cases integer : d.scale = 0 <;> simp [Decimal.lexeme, integer]
  cases negative : d.negative <;> simp [Decimal.lexemes, negative, kind]

theorem Literal.pipeless_lexemes (value : Literal) : Pipeless value.lexemes := by
  cases value with
  | int n => by_cases negative : n < 0 <;> simp [Literal.lexemes, negative]
  | decimal d => exact d.pipeless_lexemes
  | str s => simp [Literal.lexemes]
  | bool b => simp [Literal.lexemes]
  | date kind s => simp [Literal.lexemes]

theorem NamedOption.pipeless_lexemes (o : NamedOption) : Pipeless o.lexemes := by
  simp [NamedOption.lexemes, Scan.word_ne_mark, o.value.pipeless_lexemes]

theorem WeightedField.pipeless_lexemes (f : WeightedField) : Pipeless f.lexemes := by
  obtain ⟨field, found⟩ := f
  cases found with
  | none => simp [WeightedField.lexemes]
  | some d => simp [WeightedField.lexemes, d.pipeless_lexemes]

theorem BinaryOp.kind_ne_pipe (op : BinaryOp) : op.kind ≠ .mark .pipe := by
  cases op <;> simp [BinaryOp.kind]

theorem UnaryOp.lexeme_ne_pipe (op : UnaryOp) : op.lexeme.kind ≠ .mark .pipe := by
  cases op <;> simp [UnaryOp.lexeme]

namespace Expr

theorem pipeless_call {name : String} {pieces : List (List Lexeme)}
    (h : ∀ ls ∈ pieces, Pipeless ls) :
    Pipeless (.word name :: .mark .lParen :: (commaLexemes pieces ++ [.mark .rParen])) := by
  simp [Scan.word_ne_mark, pipeless_commaLexemes h]

/-- No lexeme of a readable expression is a pipe. -/
theorem Readable.pipeless {follow : Follow} {e : Expr} (readable : Readable follow e) :
    Pipeless e.lexemes := by
  induction readable with
  | @literal _ value _ => exact value.pipeless_lexemes
  | @field _ name _ _ => exact pipeless_nameLexemes name
  | @call _ family args options k _ _ _ _ _ _ _ ih =>
    rw [lexemes_call]
    refine pipeless_call fun ls member => ?_
    rcases List.mem_append.mp member with member | member
    · obtain ⟨e, found, rfl⟩ := List.mem_map.mp member
      exact ih e found
    · obtain ⟨o, -, rfl⟩ := List.mem_map.mp member
      exact o.pipeless_lexemes
  | @multiField _ fields arg options k _ _ _ _ _ ih =>
    have items : Pipeless (commaLexemes (fields.map WeightedField.lexemes)) := by
      refine pipeless_commaLexemes fun ls member => ?_
      obtain ⟨f, -, rfl⟩ := List.mem_map.mp member
      exact f.pipeless_lexemes
    rw [lexemes_call]
    refine pipeless_call fun ls member => ?_
    rcases List.mem_append.mp member with member | member
    · simp only [List.map_cons, List.map_nil, List.mem_cons, List.not_mem_nil, or_false] at member
      rcases member with rfl | rfl
      · simp [lexemes, items]
      · exact ih
    · obtain ⟨o, -, rfl⟩ := List.mem_map.mp member
      exact o.pipeless_lexemes
  | @binary _ op left right _ _ _ ihl ihr =>
    simp [lexemes, op.kind_ne_pipe, pipeless_parenLexemes _ ihl, pipeless_parenLexemes _ ihr]
  | @unary _ op operand _ ih =>
    simp [lexemes, op.lexeme_ne_pipe, pipeless_parenLexemes _ ih]
  | @inList _ item list _ _ _ ihi ihl =>
    have items : Pipeless (commaLexemes (list.map lexemes)) := by
      refine pipeless_commaLexemes fun ls member => ?_
      obtain ⟨e, found, rfl⟩ := List.mem_map.mp member
      exact ihl e found
    simp [lexemes, listLexemes_eq_map, pipeless_parenLexemes _ ihi, items]
  | @case _ branches fallback _ _ _ _ _ ihc ihv _ ihf =>
    have items : Pipeless (commaLexemes (branchLexemes branches)) := by
      rw [branchLexemes_eq_map]
      refine pipeless_commaLexemes fun ls member => ?_
      obtain ⟨b, found, rfl⟩ := List.mem_map.mp member
      simp [ihc b found, ihv b found]
    cases fallback with
    | none => simp [lexemes, items]
    | some e => simp [lexemes, items, ihf e rfl]
  | cast _ ih => simp [lexemes, ih]
  | interval _ _ _ ih => simp [lexemes, pipeless_parenLexemes _ ih]

end Expr

end PipedQuery
