import PipedQuery.Proofs.Grammar.Aggregates
import PipedQuery.Proofs.Grammar.Parentheses

/-!
# Forms of arguments

The arguments of `percentile`, `extract` and `position` have each a form of their own besides a
plain list.  Around an expression both forms are read alike (`Grammar.percentile_agrees`,
`Grammar.extract_agrees`, `Grammar.position_agrees`): if no level is left for what is inside then
neither is read, and otherwise they give the same call.

Only a value without an issue counts here (`Outcome.Agrees`), since the issues of the two forms are
about different places.
-/

namespace PipedQuery

variable {α β : Type}

namespace Outcome

variable {o o' : StageOutcome α} {f g : α → StageParser β}

/-- Whether the outcome is anything but a value without an issue. -/
def Fails (o : StageOutcome α) : Prop := ∀ a rest, o ≠ ⟨.ok a, rest, []⟩

/-- Whether one outcome is a value without an issue if and only if the other one is, and the same
    lexemes are left then. -/
def Agrees (o o' : StageOutcome α) : Prop := ∀ a rest, o = ⟨.ok a, rest, []⟩ ↔ o' = ⟨.ok a, rest, []⟩

theorem Agrees.bind (h : o.Agrees o') (others : ∀ a rest, (f a rest).Agrees (g a rest)) :
    (o.bind f).Agrees (o'.bind g) := by
  intro b rest
  rw [bind_eq_ok_iff, bind_eq_ok_iff]
  simp only [h _ _, others _ _ b rest]

theorem Agrees.refl (o : StageOutcome α) : o.Agrees o := fun _ _ => Iff.rfl

theorem Fails.agrees (h : o.Fails) (h' : o'.Fails) : o.Agrees o' :=
  fun a rest => iff_of_false (h a rest) (h' a rest)

theorem Fails.bind (h : o.Fails) (f : α → StageParser β) : (o.bind f).Fails := by
  intro b rest found
  obtain ⟨a, between, here, -⟩ := bind_eq_ok_iff.mp found
  exact h a between here

end Outcome

namespace Parser

variable {ts us rest : List Lexeme} {issue : Issue} {raised : List Issue}

theorem fails_of_error {o : StageOutcome α} (found : o = ⟨.error issue, rest, raised⟩) : o.Fails := by
  rw [found]
  nofun

/-- A loop stops where its first step does. -/
theorem iterate_fails {step : α → StageParser (Option α)} {a : α} (h : (step a ts).Fails) :
    (iterate step a ts).Fails := by
  intro b rest found
  rw [iterate] at found
  generalize step a ts = o at h found
  obtain ⟨issue | _ | a', between, raised⟩ := o
  · cases found
  · cases found
    exact h _ _ rfl
  · have none : raised = [] := by
      dsimp only at found
      split at found
      · exact (List.append_eq_nil_iff.mp (congrArg Outcome.raised found)).1
      · exact congrArg Outcome.raised found
    exact h _ _ (by rw [none])

section Seams

variable {p q : StageParser α} {a : α}

/-- What is read of all the lexemes where more levels are left is read of them where fewer are left,
    or nothing is read there in front of any seam. -/
theorem reads_or_fails [limited : Limited p q] (plain : ¬EndsInDot ts)
    (whole : q ts = ⟨.ok a, [], raised⟩) :
    p ts = ⟨.ok a, [], []⟩ ∨ ∀ us, Transfers false [] us q q → Transfers false us [] p p →
      (p (ts ++ us)).Fails := by
  by_cases fits : p ts = ⟨.ok a, [], []⟩
  · exact .inl fits
  refine .inr fun us there back b rest found => fits ?_
  obtain ⟨raised', run, -⟩ := there.at_ ts plain a [] raised (by rwa [List.append_nil]) nofun
  -- So the shallower parser would have read the same there, and nothing less in front of no seam.
  cases run.symm.trans (limited.eq_of_ok found)
  have read := back.run plain found
  rwa [List.append_nil] at read

end Seams

section Calls

variable {expression additive : StageParser Expr} {k : Keyword} {family : FunctionFamily}

theorem chain_agrees {operand : StageParser Expr} (h : (operand ts).Agrees (operand us))
    (op? : StageParser (Option BinaryOp)) : (chain operand op? ts).Agrees (chain operand op? us) :=
  h.bind fun _ _ => .refl _

/-- Calls of the same function agree if their arguments do. -/
theorem call_agrees (l : Lexeme)
    (h : (callArguments expression additive k family ts).Agrees
      (callArguments expression additive k family us)) :
    (call expression additive k family (l :: ts)).Agrees
      (call expression additive k family (l :: us)) := by
  refine h.bind fun r rest => ?_
  obtain ⟨args, options⟩ := r
  refine (Outcome.Agrees.refl (expectMark .rParen rest)).bind fun _ rest => ?_
  cases k.arity? with
  | none => exact .refl _
  | some arity =>
    -- The issue of a wrong number of arguments is about different places.
    dsimp only
    cases arity.accepts args.length with
    | true => exact .refl _
    | false =>
      have raises (place : Nat) : (raiseAt place (.wrongArity k arity args.length) rest).Fails :=
        nofun
      simp only [Bool.false_eq_true, if_false, bind_run]
      exact ((raises _).bind _).agrees ((raises _).bind _)

/-! The last argument of a list, of which there are others in front. -/

variable {a b : Expr}

/-- The arguments behind the first one. -/
def others (expression : StageParser Expr) (first : Expr) : StageParser (List Expr) := do
  return (← behindCommas (fun args => do return (← expression) :: args) [first]).reverse

theorem others_last (last : expression us = ⟨.ok b, [.mark .rParen], []⟩) (some : us ≠ []) :
    others expression a (.mark .comma :: us) = ⟨.ok [a, b], [.mark .rParen], []⟩ := by
  have step : (do return (← expression) :: [a] : StageParser (List Expr)) us =
      ⟨.ok [b, a], [.mark .rParen], []⟩ := by
    simp [last]
  have shorter : [Lexeme.mark .rParen].length ≤ us.length := List.length_pos_iff.mpr some
  rw [others, bind_run, behindCommas_comma step shorter, behindCommas_of_ne (by simp)]
  rfl

theorem others_fails (h : (expression us).Fails) :
    (others expression a (.mark .comma :: us)).Fails := by
  refine (iterate_fails ?_).bind _
  rw [bind_run, eatMark, eat_of_eq us (Lexeme.mark_kind .comma)]
  exact (h.bind _).bind _

section Arguments

variable (noEnd : firstKind ts ≠ some (.mark .rParen))
include noEnd

theorem arguments_of_first (found : expression ts = ⟨.ok a, rest, []⟩) :
    arguments expression ts = others expression a rest := by
  simp only [arguments, list, separated, bind_run, check_run, noEnd, decide_false, Outcome.bind_ok,
    Bool.false_eq_true, if_false, found, pure_run, Outcome.after_nil]
  rfl

theorem arguments_fails (h : (expression ts).Fails) : (arguments expression ts).Fails := by
  simp only [arguments, list, separated, bind_run, check_run, noEnd, decide_false, Outcome.bind_ok,
    Bool.false_eq_true, if_false, Outcome.after_nil]
  exact ((h.bind _).bind _).bind _

end Arguments

/-! The arguments of the special forms. -/

theorem rankedArguments_of_some {l : Lexeme} {v : Literal} (number : l.kind.isNumber = true)
    (found : numberLiteral? l = some v) (ts : List Lexeme) :
    rankedArguments expression (l :: .mark .greater :: .mark .lParen :: ts) =
      (expression ts).bind fun e => pure [e, .literal v] := by
  simp only [rankedArguments, bind_run, plainNumber_of_literal number found, Outcome.bind_ok,
    expectMark, expect_of_eq _ (Lexeme.mark_kind _), Outcome.after_nil]

theorem rankedArguments_of_none {l : Lexeme} (number : l.kind.isNumber = true)
    (none : numberLiteral? l = none) : (rankedArguments expression (l :: ts)).Fails := by
  have refused : plainNumber .percentileRank (l :: ts) =
      ⟨.error ⟨.numberOutOfRange l.text, ts.length + 1⟩, ts, []⟩ := by
    simp [plainNumber, number, Parser.number, none]
  exact (fails_of_error refused).bind _

theorem extractArguments_of_unit {l : Lexeme} {u : Keyword} (word : l.kind = .keyword u)
    (isUnit : u.isIntervalUnit = true) (ts : List Lexeme) :
    extractArguments expression (l :: Keyword.from_.lexeme :: ts) =
      (expression ts).bind fun e => pure [.literal (.str (l.text.map Char.toLower)), e] := by
  simp [extractArguments, startsExtractUnit, word, isUnit, expectKeyword,
    expect_of_eq _ (Keyword.lexeme_kind _)]

theorem extractArguments_of_string (s : String) (ts : List Lexeme) :
    extractArguments expression (.string s :: ts) = arguments expression (.string s :: ts) := by
  have noUnit : startsExtractUnit (.string s :: ts) = false := rfl
  simp [extractArguments, noUnit]

theorem positionArguments_of_in (first : additive us = ⟨.ok a, Keyword.in_.lexeme :: ts, []⟩) :
    positionArguments expression additive us = (expression ts).bind fun e => pure [a, e] := by
  simp [positionArguments, first, eatKeyword, eat_of_eq _ (Keyword.lexeme_kind _)]

theorem positionArguments_of_comma (first : additive us = ⟨.ok a, .mark .comma :: ts, []⟩) :
    positionArguments expression additive us = others expression a (.mark .comma :: ts) := by
  have noIn : firstKind (.mark .comma :: ts) ≠ some (.keyword .in_) := by simp
  simp [positionArguments, others, first, eatKeyword, eat_of_ne noIn]

end Calls

end Parser

namespace Grammar

open PipedQuery.Parser

variable {n : Nat} {k : Keyword} {family : FunctionFamily} {ts us le la : List Lexeme} {e a : Expr}
  {raised : List Issue}

/-- Calls agree as expressions if they agree as calls. -/
theorem expression_agrees (l : Lexeme) (form : primaryForm (l :: ts) = .call k family)
    (form' : primaryForm (l :: us) = .call k family)
    (h : (callArguments (level n).expression (level n).additive k family ts).Agrees
      (callArguments (level n).expression (level n).additive k family us)) :
    ((level (n + 1)).expression (l :: ts)).Agrees ((level (n + 1)).expression (l :: us)) := by
  have primary (ts : List Lexeme) (form : primaryForm (l :: ts) = .call k family) :
      (level (n + 1)).unary (l :: ts) =
        call (level n).expression (level n).additive k family (l :: ts) := by
    rw [unary_of_form (by simp [form])]
    simp [Grammar.primary, form]
  have unary : ((level (n + 1)).unary (l :: ts)).Agrees ((level (n + 1)).unary (l :: us)) := by
    rw [primary ts form, primary us form']
    exact call_agrees l h
  have sum : ((level (n + 1)).additive (l :: ts)).Agrees ((level (n + 1)).additive (l :: us)) := by
    rw [additive_level]
    exact chain_agrees (chain_agrees unary _) _
  have condition :
      ((level (n + 1)).negation (l :: ts)).Agrees ((level (n + 1)).negation (l :: us)) := by
    rw [negation_level, negation_of_ne _ _ (ne_not_of_form (by simp [form])),
      negation_of_ne _ _ (ne_not_of_form (by simp [form']))]
    exact sum.bind fun _ _ => .refl _
  rw [expression_level]
  exact chain_agrees (chain_agrees (chain_agrees condition _) _) _

/-- An expression is the same one of one level less in front of every seam, or of none. -/
theorem expression_reads_or_fails (whole : (level (n + 1)).expression le = ⟨.ok e, [], []⟩) :
    (∀ us, IsSeam us → Passes false us (.keyword .in_) →
      (level n).expression (le ++ us) = ⟨.ok e, us, []⟩) ∨
    ∀ us, IsSeam us → Passes false us (.keyword .in_) →
      ((level n).expression (le ++ us)).Fails := by
  have := (limited_level (Nat.le_succ n)).expression
  have plain := (dotless_level (n + 1)).expression.at_ le e [] whole
  refine (reads_or_fails plain whole).imp (fun fits us _ _ => expression_of_seam fits us)
    fun fails us _ _ => fails us ?_ ?_
  · exact (transfers_level (n + 1)).expression false
  · exact (transfers_level n).expression false

/-- A sum is the same one of one level less in front of every seam, or of none. -/
theorem additive_reads_or_fails (whole : (level (n + 1)).additive la = ⟨.ok a, [], raised⟩) :
    (∀ us, IsSeam us → (level n).additive (la ++ us) = ⟨.ok a, us, []⟩) ∨
    ∀ us, IsSeam us → ((level n).additive (la ++ us)).Fails := by
  have := (limited_level (Nat.le_succ n)).additive
  have plain := (dotless_level (n + 1)).additive.at_ la a raised whole
  refine (reads_or_fails plain whole).imp (fun fits us _ => ?_) fun fails us _ => fails us ?_ ?_
  · have : Parser.Transfers false [] us (level n).additive (level n).additive :=
      (transfers_level n).additive false
    exact this.run plain (by rwa [List.append_nil])
  · exact (transfers_level (n + 1)).additive false
  · exact (transfers_level n).additive false

/-- A number is an expression if it has a value. -/
theorem expression_number {l : Lexeme} {v : Literal} (number : l.kind.isNumber = true)
    (found : numberLiteral? l = some v) (closes : Closes ts) :
    (level (n + 1)).expression (l :: ts) = ⟨.ok (.literal v), ts, []⟩ :=
  expression_of_unary (ne_not_of_form (by simp [primaryForm_number number]))
    (unary_number number found ts) closes

theorem expression_number_fails {l : Lexeme} (number : l.kind.isNumber = true)
    (none : numberLiteral? l = none) : ((level (n + 1)).expression (l :: ts)).Fails := by
  have form := primaryForm_number number ts
  have refused : (level (n + 1)).unary (l :: ts) =
      ⟨.error ⟨.numberOutOfRange l.text, ts.length + 1⟩, ts, []⟩ := by
    rw [unary_of_form (by simp [form])]
    simp [primary, form, Parser.number, none]
  exact fails_of_error (expression_of_error (ne_not_of_form (by simp [form])) refused)

/-! The three functions. -/

section Forms

variable (whole : (level (n + 2)).expression le = ⟨.ok e, [], []⟩)
include whole

theorem firstKind_ne_of_expression (ts : List Lexeme) :
    firstKind (le ++ ts) ≠ some (.mark .rParen) := by
  have nonempty : le ≠ [] := by
    rintro rfl
    have shorter := (consumes_level (n + 2)).expression.shorter [] e
      (congrArg Outcome.result whole) trivial
    exact Nat.not_lt_zero _ shorter
  rw [firstKind_append nonempty]
  intro kind
  exact result_expression_ne_ok (by simp [primaryForm, kind]) (by simp [kind]) (by simp [kind])
    (n + 2) e (congrArg Outcome.result whole)

/-- `percentile<rank>(value)` is `percentile(value, rank)`. -/
theorem percentile_agrees {l : Lexeme} (number : l.kind.isNumber = true) :
    ((level (n + 2)).expression (Keyword.percentile.lexeme :: .mark .less :: l :: .mark .greater ::
        .mark .lParen :: (le ++ [.mark .rParen]))).Agrees
      ((level (n + 2)).expression (Keyword.percentile.lexeme :: .mark .lParen ::
        (le ++ .mark .comma :: l :: [.mark .rParen]))) := by
  refine expression_agrees _ (show primaryForm _ = .call .percentile .aggregate from rfl) rfl ?_
  rw [callArguments_ranked, callArguments_plain _ _ (by decide) (by decide) (by decide)]
  refine Outcome.Agrees.bind ?_ fun _ _ => .refl _
  have noEnd := firstKind_ne_of_expression whole (.mark .comma :: l :: [.mark .rParen])
  obtain reads | fails := expression_reads_or_fails whole
  · have first := reads (.mark .comma :: l :: [.mark .rParen]) inferInstance inferInstance
    rw [arguments_of_first noEnd first]
    cases found : numberLiteral? l with
    | none =>
      refine (rankedArguments_of_none number found).agrees (others_fails ?_)
      exact expression_number_fails number found
    | some v =>
      have rank := expression_number (n := n) number found (closes_mark (.inl rfl) [])
      rw [rankedArguments_of_some number found, others_last rank (by simp),
        reads [.mark .rParen] inferInstance inferInstance]
      exact .refl _
  · have first := fails (.mark .comma :: l :: [.mark .rParen]) inferInstance inferInstance
    refine Outcome.Fails.agrees ?_ (arguments_fails noEnd first)
    cases found : numberLiteral? l with
    | none => exact rankedArguments_of_none number found
    | some v =>
      rw [rankedArguments_of_some number found]
      exact (fails [.mark .rParen] inferInstance inferInstance).bind _

/-- The last of two arguments is read alike behind `in`, behind `from` and behind a comma. -/
theorem others_agrees (a : Expr) :
    (((level (n + 1)).expression (le ++ [.mark .rParen])).bind fun e => pure [a, e]).Agrees
      (others (level (n + 1)).expression a (.mark .comma :: (le ++ [.mark .rParen]))) := by
  obtain reads | fails := expression_reads_or_fails whole
  · have last := reads [.mark .rParen] inferInstance inferInstance
    rw [last, others_last last (by simp)]
    exact .refl _
  · have last := fails [.mark .rParen] inferInstance inferInstance
    exact (last.bind _).agrees (others_fails last)

/-- `extract(unit from time)` is `extract('unit', time)`. -/
theorem extract_agrees {l : Lexeme} {u : Keyword} (word : l.kind = .keyword u)
    (isUnit : u.isIntervalUnit = true) :
    ((level (n + 2)).expression (Keyword.extract.lexeme :: .mark .lParen :: l ::
        Keyword.from_.lexeme :: (le ++ [.mark .rParen]))).Agrees
      ((level (n + 2)).expression (Keyword.extract.lexeme :: .mark .lParen ::
        .string (l.text.map Char.toLower) :: .mark .comma :: (le ++ [.mark .rParen]))) := by
  refine expression_agrees _ (show primaryForm _ = .call .extract .scalar from rfl) rfl ?_
  rw [callArguments_extract, callArguments_extract]
  refine Outcome.Agrees.bind ?_ fun _ _ => .refl _
  have name := expression_of_unary (by nofun)
    (unary_string (n := n) (l.text.map Char.toLower) (.mark .comma :: (le ++ [.mark .rParen])))
    (closes_mark (.inr rfl) _)
  rw [extractArguments_of_unit word isUnit, extractArguments_of_string,
    arguments_of_first (by nofun) name]
  exact others_agrees whole _

/-- `position(sub in text)` is `position(sub, text)`. -/
theorem position_agrees (sum : (level (n + 2)).additive la = ⟨.ok a, [], raised⟩) :
    ((level (n + 2)).expression (Keyword.position.lexeme :: .mark .lParen ::
        (la ++ Keyword.in_.lexeme :: (le ++ [.mark .rParen])))).Agrees
      ((level (n + 2)).expression (Keyword.position.lexeme :: .mark .lParen ::
        (la ++ .mark .comma :: (le ++ [.mark .rParen])))) := by
  refine expression_agrees _ (show primaryForm _ = .call .position .scalar from rfl) rfl ?_
  rw [callArguments_position, callArguments_position]
  refine Outcome.Agrees.bind ?_ fun _ _ => .refl _
  have seam : IsSeam (Keyword.in_.lexeme :: (le ++ [.mark .rParen])) :=
    ⟨.inr (.inr (.inr (.inl rfl)))⟩
  obtain reads | fails := additive_reads_or_fails sum
  · rw [positionArguments_of_in (reads _ seam), positionArguments_of_comma (reads _ inferInstance)]
    exact others_agrees whole a
  · exact ((fails _ seam).bind _).agrees ((fails _ inferInstance).bind _)

end Forms

end Grammar

end PipedQuery
