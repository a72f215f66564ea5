import PipedQuery.Proofs.Parser.Run

/-!
# Parsers that differ in how deep they may go

`Limited p q` says that `p` does on all lexemes what `q` does, unless it stops because an expression
is nested too deeply for it.  Where it does so, it has raised nothing that `q` would not have raised.

No combinator looks at the cause of an issue, so parsers that are made alike of limited parsers are
limited themselves.
-/

namespace PipedQuery

variable {α β : Type}

/-- Whether the first outcome is the second one, or has come to an end before it because of the
    nesting. -/
inductive Outcome.Limited : StageOutcome α → StageOutcome α → Prop where
  | same {o : StageOutcome α} : Limited o o
  | nested {place : Nat} {rest : List Lexeme} {raised : List Issue} {o : StageOutcome α} :
    raised <+: o.raised → Limited ⟨.error ⟨.nestedTooDeeply, place⟩, rest, raised⟩ o

namespace Outcome

variable {o o' : StageOutcome α} {f g : α → StageParser β}

theorem Limited.after (h : o.Limited o') (raised : List Issue) :
    (o.after raised).Limited (o'.after raised) := by
  cases h with
  | same => exact .same
  | nested few => exact .nested ((List.prefix_append_right_inj raised).mpr few)

/-- What has been raised is not taken back by what follows. -/
theorem raised_prefix_bind (o : StageOutcome α) (f : α → StageParser β) :
    o.raised <+: (o.bind f).raised := by
  obtain ⟨issue | a, rest, raised⟩ := o
  · exact List.prefix_rfl
  · exact List.prefix_append _ _

/-- What follows a refusal does not matter, and what follows a value is compared again. -/
theorem Limited.bind (h : o.Limited o') (others : ∀ a rest, (f a rest).Limited (g a rest)) :
    (o.bind f).Limited (o'.bind g) := by
  cases h with
  | same =>
    obtain ⟨issue | a, rest, raised⟩ := o
    · exact .same
    · exact (others a rest).after raised
  | nested few => exact .nested (few.trans (o'.raised_prefix_bind g))

end Outcome

namespace Parser

variable {p q : StageParser α} {f g : α → StageParser β}

/-- Whether `p` does what `q` does, unless an expression is nested too deeply for `p`. -/
class Limited (p q : StageParser α) : Prop where
  run : ∀ ts, (p ts).Limited (q ts)

instance (priority := low) (p : StageParser α) : Limited p p := ⟨fun _ => .same⟩

theorem limited_fail (q : StageParser α) : Limited (fail .nestedTooDeeply) q :=
  ⟨fun _ => .nested List.nil_prefix⟩

/-- A parser that is done with an expression has nowhere gone too deep. -/
theorem Limited.eq_of_ok [limited : Limited p q] {ts rest : List Lexeme} {a : α}
    {raised : List Issue} (found : p ts = ⟨.ok a, rest, raised⟩) : q ts = ⟨.ok a, rest, raised⟩ := by
  have run := limited.run ts
  rw [found] at run
  generalize q ts = o at run ⊢
  cases run
  rfl

/-- Where nothing has been raised, a parser that goes less deep does the same or stops. -/
theorem Limited.ok_or_nested [limited : Limited p q] {ts rest : List Lexeme} {a : α}
    (found : q ts = ⟨.ok a, rest, []⟩) :
    p ts = ⟨.ok a, rest, []⟩ ∨ ∃ place left, p ts = ⟨.error ⟨.nestedTooDeeply, place⟩, left, []⟩ := by
  have run := limited.run ts
  rw [found] at run
  generalize p ts = o at run ⊢
  cases run with
  | same => exact .inl rfl
  | nested few => exact .inr ⟨_, _, by rw [List.prefix_nil.mp few]⟩

/-! Parsers made of parsers. -/

theorem Limited.bind [first : Limited p q] (others : ∀ a, Limited (f a) (g a)) :
    Limited (p >>= f) (q >>= g) :=
  ⟨fun ts => (first.run ts).bind fun a => (others a).run⟩

instance [Limited p q] [others : ∀ a, Limited (f a) (g a)] : Limited (p >>= f) (q >>= g) :=
  .bind others

instance (c : Prop) [Decidable c] {p' q' : StageParser α} [Limited p q] [Limited p' q'] :
    Limited (if c then p else p') (if c then q else q') := by
  split <;> assumption

instance {step step' : α → StageParser (Option α)} [steps : ∀ a, Limited (step a) (step' a)] (a : α) :
    Limited (iterate step a) (iterate step' a) where
  run ts := by
    have here := (steps a).run ts
    fun_induction iterate step' a ts with
    | case1 a ts _ rest raised found | case2 a ts rest raised found =>
      rw [iterate]
      rw [found] at here
      generalize step a ts = o at here ⊢
      cases here with
      | same => exact .same
      | nested few => exact .nested few
    | case3 a ts a' rest raised found shorter ih =>
      rw [iterate]
      rw [found] at here
      generalize step a ts = o at here ⊢
      cases here with
      | same =>
        simp only [if_pos shorter]
        exact (ih ((steps a').run rest)).after raised
      | nested few => exact .nested (few.trans (List.prefix_append raised _))
    | case4 a ts a' rest raised found stuck =>
      rw [iterate]
      rw [found] at here
      generalize step a ts = o at here ⊢
      cases here with
      | same =>
        simp only [if_neg stuck]
        exact .same
      | nested few => exact .nested few

/-- A parser that refers to itself is limited if it is with any limited parsers in their places. -/
theorem limited_fix {f g : StageParser α → StageParser α}
    (step : ∀ p q, Limited p q → Limited (f p) (g q)) : Limited (fix f) (fix g) := by
  constructor
  intro ts
  induction length : ts.length using Nat.strongRecOn generalizing ts with
  | ind n ih =>
    rw [fix_run, fix_run]
    refine (step _ _ ⟨fun us => ?_⟩).run ts
    by_cases shorter : us.length < ts.length
    · simp only [if_pos shorter]
      exact ih us.length (length ▸ shorter) us rfl
    · simp only [if_neg shorter]
      exact .same

/-! Lists. -/

instance {item item' : β → StageParser β} [∀ b, Limited (item b) (item' b)] (b : β) :
    Limited (behindCommas item b) (behindCommas item' b) := by
  unfold behindCommas
  infer_instance

instance {item item' : β → StageParser β} [∀ b, Limited (item b) (item' b)] (b : β) :
    Limited (separated item b) (separated item' b) := by
  unfold separated
  infer_instance

instance [Limited p q] : Limited (list p) (list q) := by
  unfold list
  infer_instance

end Parser

end PipedQuery
