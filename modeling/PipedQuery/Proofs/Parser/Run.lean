import PipedQuery.Grammar.Basic

/-!
# Running parsers

What each combinator comes to on given lexemes.  With these equations `simp` runs a parser on
lexemes that are known as far as the parser looks.
-/

namespace PipedQuery

/-- Whether the cause is no more than a warning. -/
def Cause.IsWarning (cause : Cause) : Prop := ∀ found, cause.kind found = .invalidPattern

@[simp] theorem Input.ahead_list (ts : List Lexeme) : ahead ts = ts := rfl

@[simp] theorem firstKind_nil : firstKind [] = none := rfl
@[simp] theorem firstKind_cons (l : Lexeme) (ts : List Lexeme) :
    firstKind (l :: ts) = some l.kind := rfl
@[simp] theorem secondKind_nil : secondKind [] = none := rfl
@[simp] theorem secondKind_cons (l : Lexeme) (ts : List Lexeme) :
    secondKind (l :: ts) = firstKind ts := rfl

namespace Outcome

variable {α β : Type}

/-- Behind a value a parser reads on. -/
@[simp] theorem bind_ok (a : α) (rest : List Lexeme) (raised : List Issue) (f : α → StageParser β) :
    (⟨.ok a, rest, raised⟩ : StageOutcome α).bind f = (f a rest).after raised := rfl

/-- Behind an issue nothing more is read. -/
@[simp] theorem bind_error (issue : Issue) (rest : List Lexeme) (raised : List Issue)
    (f : α → StageParser β) :
    (⟨.error issue, rest, raised⟩ : StageOutcome α).bind f = ⟨.error issue, rest, raised⟩ := rfl

@[simp] theorem after_mk (raised : List Issue) (result : Except Issue α) (rest : List Lexeme)
    (more : List Issue) :
    (⟨result, rest, more⟩ : StageOutcome α).after raised = ⟨result, rest, raised ++ more⟩ := rfl

@[simp] theorem after_nil (o : StageOutcome α) : o.after [] = o := rfl

@[simp] theorem after_result (raised : List Issue) (o : StageOutcome α) :
    (o.after raised).result = o.result := rfl

@[simp] theorem after_rest (raised : List Issue) (o : StageOutcome α) :
    (o.after raised).rest = o.rest := rfl

/-- What two parsers give one after the other without an issue, each of them gives without one. -/
theorem bind_eq_ok_iff {o : StageOutcome α} {f : α → StageParser β} {b : β} {rest : List Lexeme} :
    o.bind f = ⟨.ok b, rest, []⟩ ↔
      ∃ a between, o = ⟨.ok a, between, []⟩ ∧ f a between = ⟨.ok b, rest, []⟩ := by
  constructor
  · intro found
    obtain ⟨issue | a, between, raised⟩ := o
    · cases found
    obtain ⟨none, later⟩ := List.append_eq_nil_iff.mp (congrArg Outcome.raised found)
    rw [none, bind_ok, after_nil] at found
    exact ⟨a, between, by rw [none], found⟩
  · rintro ⟨a, between, rfl, found⟩
    exact found

end Outcome

namespace Parser

variable {α β : Type} (ts : List Lexeme)

@[simp] theorem pure_run (a : α) : (pure a : StageParser α) ts = ⟨.ok a, ts, []⟩ := rfl

@[simp] theorem bind_run (p : StageParser α) (f : α → StageParser β) :
    (p >>= f) ts = (p ts).bind f := rfl

@[simp] theorem discard_run (p : StageParser α) :
    (discard p : StageParser PUnit) ts = (p ts).bind fun _ => pure ⟨⟩ := rfl

@[simp] theorem ite_run (c : Prop) [Decidable c] (p q : StageParser α) :
    (if c then p else q) ts = if c then p ts else q ts := by
  split <;> rfl

@[simp] theorem lexemes_run : lexemes ts = ⟨.ok ts, ts, []⟩ := rfl
@[simp] theorem peek_run : peek ts = ⟨.ok ts.head?, ts, []⟩ := rfl
@[simp] theorem remaining_run : remaining ts = ⟨.ok ts.length, ts, []⟩ := rfl
@[simp] theorem atEnd_run : atEnd ts = ⟨.ok ts.isEmpty, ts, []⟩ := rfl
@[simp] theorem skip_run (n : Nat) : skip n ts = ⟨.ok (), ts.drop n, []⟩ := rfl
@[simp] theorem skipAll_run : skipAll ts = ⟨.ok (), [], []⟩ := rfl
@[simp] theorem failAt_run (place : Nat) (cause : Cause) :
    (failAt place cause : StageParser α) ts = ⟨.error ⟨cause, place⟩, ts, []⟩ := rfl
@[simp] theorem fail_run (cause : Cause) :
    (fail cause : StageParser α) ts = ⟨.error ⟨cause, ts.length⟩, ts, []⟩ := rfl
@[simp] theorem raise_run (issue : Issue) : raise issue ts = ⟨.ok (), ts, [issue]⟩ := rfl
@[simp] theorem raiseAt_run (place : Nat) (cause : Cause) :
    raiseAt place cause ts = ⟨.ok (), ts, [⟨cause, place⟩]⟩ := rfl
@[simp] theorem attempt_run (p : StageParser α) :
    attempt p ts = ⟨.ok (p ts).result, (p ts).rest, (p ts).raised⟩ := rfl

@[simp] theorem check_run (kind : TokenKind) :
    check kind ts = ⟨.ok (firstKind ts = some kind), ts, []⟩ := rfl

theorem eat_run (kind : TokenKind) :
    eat kind ts = if firstKind ts = some kind then ⟨.ok true, ts.tail, []⟩
      else ⟨.ok false, ts, []⟩ := by
  by_cases found : firstKind ts = some kind <;> simp [eat, found]

/-- A lexeme of the kind that is asked for is passed over. -/
theorem eat_of_eq {kind : TokenKind} {l : Lexeme} (h : l.kind = kind) :
    eat kind (l :: ts) = ⟨.ok true, ts, []⟩ := by
  simp [eat_run, h]

/-- A lexeme of another kind stays. -/
theorem eat_of_ne {kind : TokenKind} {ts : List Lexeme} (h : firstKind ts ≠ some kind) :
    eat kind ts = ⟨.ok false, ts, []⟩ := by
  simp [eat_run, h]

theorem expect_of_eq {kind : TokenKind} {l : Lexeme} (h : l.kind = kind) :
    expect kind (l :: ts) = ⟨.ok (), ts, []⟩ := by
  simp [expect, eat_of_eq ts h]

@[simp] theorem atOption_run (k : Keyword) : atOption k ts = ⟨.ok (startsOption k ts), ts, []⟩ := rfl

@[simp] theorem atAssignment_run : atAssignment ts = ⟨.ok (startsAssignment ts), ts, []⟩ := rfl

/-- A loop ends where a step gives nothing. -/
theorem iterate_of_none {step : α → StageParser (Option α)} {a : α} {ts rest : List Lexeme}
    {raised : List Issue} (h : step a ts = ⟨.ok none, rest, raised⟩) :
    iterate step a ts = ⟨.ok a, rest, raised⟩ := by
  rw [iterate, h]

/-- A loop goes on behind a step that gives something and has read a lexeme. -/
theorem iterate_of_some {step : α → StageParser (Option α)} {a a' : α} {ts rest : List Lexeme}
    {raised : List Issue} (h : step a ts = ⟨.ok (some a'), rest, raised⟩)
    (shorter : rest.length < ts.length) :
    iterate step a ts = (iterate step a' rest).after raised := by
  rw [iterate, h]
  simp only [Input.ahead_list, if_pos shorter]

/-- A loop stops at the issue of a step. -/
theorem iterate_of_error {step : α → StageParser (Option α)} {a : α} {ts rest : List Lexeme}
    {issue : Issue} {raised : List Issue} (h : step a ts = ⟨.error issue, rest, raised⟩) :
    iterate step a ts = ⟨.error issue, rest, raised⟩ := by
  rw [iterate, h]

/-- A parser that refers to itself does so on fewer lexemes only. -/
theorem fix_run (f : StageParser α → StageParser α) :
    fix f ts =
      f (fun us => if us.length < ts.length then fix f us else fail (.expected .expression) us)
        ts := by
  rw [fix]
  rfl

/-- Lexemes that start like an assignment start with a word and the mark `=`. -/
theorem exists_of_startsAssignment {ts : List Lexeme} (assigned : startsAssignment ts = true) :
    ∃ name rest, ts = name :: rest ∧ (name.kind = .identifier ∨ ∃ k, name.kind = .keyword k) ∧
      rest.head?.map (·.kind) = some (.mark .equal) := by
  cases ts with
  | nil => cases assigned
  | cons name rest =>
    simp only [startsAssignment, firstKind_cons, secondKind_cons, Bool.and_eq_true] at assigned
    refine ⟨name, rest, rfl, ?_, of_decide_eq_true assigned.2⟩
    have word := assigned.1
    split at word
    · next kind => exact .inl (Option.some.inj kind)
    · next k kind => exact .inr ⟨k, Option.some.inj kind⟩
    · cases word

end Parser

end PipedQuery
