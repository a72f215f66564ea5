import PipedQuery.Proofs.Parser.Run

/-!
# Warnings stop no parser

A parser `StopsAtErrors` if no issue that it stops at is a mere warning.  It is `Strict` if it raises
no warning either.  Both are classes: what stops at errors is made of parsers that do, and only where
a parser tells cases apart they have to be gone through.
-/

namespace PipedQuery

/-- Whether the cause is more than a warning. -/
class Cause.IsError (cause : Cause) : Prop where
  not_isWarning : ¬cause.IsWarning

namespace Cause

instance (what : Expected) : IsError (.expected what) :=
  ⟨fun warning => by cases what <;> cases warning none⟩

instance (clause : Clause) : IsError (.missing clause) := ⟨fun warning => by cases warning none⟩
instance : IsError .chainedComparison := ⟨fun warning => by cases warning none⟩
instance : IsError .nestedTooDeeply := ⟨fun warning => by cases warning none⟩
instance (name : String) : IsError (.unknownFunction name) := ⟨fun warning => by cases warning none⟩
instance (digits : String) : IsError (.numberOutOfRange digits) :=
  ⟨fun warning => by cases warning none⟩
instance (digits : String) : IsError (.integerOutOfRange digits) :=
  ⟨fun warning => by cases warning none⟩
instance (name : String) : IsError (.notAnAggregation name) := ⟨fun warning => by cases warning none⟩
instance : IsError .unknownSpanUnit := ⟨fun warning => by cases warning none⟩
instance (typeName : String) : IsError (.weightNotANumber typeName) :=
  ⟨fun warning => by cases warning none⟩
instance (function : Keyword) (arity : Arity) (count : Nat) :
    IsError (.wrongArity function arity count) := ⟨fun warning => by cases warning none⟩
instance (name : String) (function : Keyword) : IsError (.unknownFunctionOption name function) :=
  ⟨fun warning => by cases warning none⟩

end Cause

namespace Parser

variable {α β : Type} {p : StageParser α} {f : α → StageParser β}

/-- Whether the parser stops at no mere warning. -/
class StopsAtErrors (p : StageParser α) : Prop where
  stops : ∀ ts issue, (p ts).result = .error issue → issue.cause.IsError

/-- Whether the parser neither stops at a mere warning nor raises one. -/
class Strict (p : StageParser α) : Prop where
  stops : ∀ ts issue, (p ts).result = .error issue → issue.cause.IsError
  raises : ∀ ts, ∀ issue ∈ (p ts).raised, issue.cause.IsError

-- Going through the parts comes first; this is for the expressions at the end of the search.
instance (priority := low) [h : Strict p] : StopsAtErrors p := ⟨h.stops⟩

/-! Single steps. -/

/-- A parser that always gives a value and raises nothing. -/
theorem strict_of_ok (value : ∀ ts, ∃ a, (p ts).result = .ok a) (silent : ∀ ts, (p ts).raised = []) :
    Strict p where
  stops ts issue found := by
    obtain ⟨a, given⟩ := value ts
    rw [given] at found
    cases found
  raises ts := by
    rw [silent]
    exact List.forall_mem_nil _

instance (a : α) : Strict (pure a) := strict_of_ok (fun _ => ⟨_, rfl⟩) fun _ => rfl
instance : Strict lexemes := strict_of_ok (fun _ => ⟨_, rfl⟩) fun _ => rfl
instance : Strict peek := strict_of_ok (fun _ => ⟨_, rfl⟩) fun _ => rfl
instance : Strict remaining := strict_of_ok (fun _ => ⟨_, rfl⟩) fun _ => rfl
instance : Strict atEnd := strict_of_ok (fun _ => ⟨_, rfl⟩) fun _ => rfl
instance (n : Nat) : Strict (skip n) := strict_of_ok (fun _ => ⟨_, rfl⟩) fun _ => rfl
instance (kind : TokenKind) : Strict (check kind) := strict_of_ok (fun _ => ⟨_, rfl⟩) fun _ => rfl
instance (k : Keyword) : Strict (atOption k) := strict_of_ok (fun _ => ⟨_, rfl⟩) fun _ => rfl
instance : Strict atAssignment := strict_of_ok (fun _ => ⟨_, rfl⟩) fun _ => rfl

instance (place : Nat) (cause : Cause) [error : cause.IsError] :
    Strict (failAt place cause : StageParser α) where
  stops := by
    rintro ts _ ⟨⟩
    exact error
  raises _ := List.forall_mem_nil _

instance (cause : Cause) [error : cause.IsError] : Strict (fail cause : StageParser α) where
  stops := by
    rintro ts _ ⟨⟩
    exact error
  raises _ := List.forall_mem_nil _

instance (place : Nat) (cause : Cause) [error : cause.IsError] : Strict (raiseAt place cause) where
  stops _ _ found := nomatch found
  raises ts issue member := by
    rw [List.mem_singleton.mp member]
    exact error

instance : StopsAtErrors skipAll := ⟨fun _ _ found => nomatch found⟩
instance (issue : Issue) : StopsAtErrors (raise issue) := ⟨fun _ _ found => nomatch found⟩
instance (place : Nat) (cause : Cause) : StopsAtErrors (raiseAt place cause) :=
  ⟨fun _ _ found => nomatch found⟩

/-- What stops a parser is no longer in its way. -/
instance : StopsAtErrors (attempt p) := ⟨fun _ _ found => nomatch found⟩

/-! Parsers made of parsers. -/

/-- One parser behind another one stops at errors if both do. -/
theorem StopsAtErrors.bind [first : StopsAtErrors p] (others : ∀ a, StopsAtErrors (f a)) :
    StopsAtErrors (p >>= f) := by
  constructor
  intro ts issue found
  have start := first.stops ts
  rw [bind_run] at found
  generalize p ts = o at start found
  obtain ⟨⟨issue'⟩ | ⟨a⟩, rest, raised⟩ := o
  · cases found
    exact start issue rfl
  · exact (others a).stops rest issue found

/-- One parser behind another one raises nothing but errors if both do. -/
theorem Strict.bind [first : Strict p] (others : ∀ a, Strict (f a)) : Strict (p >>= f) where
  stops ts issue found := by
    have : ∀ a, StopsAtErrors (f a) := inferInstance
    exact (StopsAtErrors.bind this).stops ts issue found
  raises ts issue member := by
    have start := first.raises ts
    rw [bind_run] at member
    generalize p ts = o at start member
    obtain ⟨⟨issue'⟩ | ⟨a⟩, rest, raised⟩ := o
    · exact start issue member
    · rcases List.mem_append.mp member with before | behind
      · exact start issue before
      · exact (others a).raises rest issue behind

instance [StopsAtErrors p] [others : ∀ a, StopsAtErrors (f a)] : StopsAtErrors (p >>= f) :=
  .bind others

instance [Strict p] [others : ∀ a, Strict (f a)] : Strict (p >>= f) := .bind others

/-- Behind a parser that always stops it does not matter what would come. -/
instance (cause : Cause) [error : cause.IsError] : StopsAtErrors (fail cause >>= f) where
  stops := by
    rintro ts _ ⟨⟩
    exact error

instance [StopsAtErrors p] : StopsAtErrors (discard p : StageParser PUnit) :=
  inferInstanceAs (StopsAtErrors (p >>= fun _ => pure PUnit.unit))

instance (c : Prop) [Decidable c] {q : StageParser α} [StopsAtErrors p] [StopsAtErrors q] :
    StopsAtErrors (if c then p else q) := by
  split <;> assumption

instance (c : Prop) [Decidable c] {q : StageParser α} [Strict p] [Strict q] :
    Strict (if c then p else q) := by
  split <;> assumption

/-! Loops and recursion. -/

instance {step : α → StageParser (Option α)} [steps : ∀ a, StopsAtErrors (step a)] (a : α) :
    StopsAtErrors (iterate step a) := by
  constructor
  intro ts issue found
  have here := (steps a).stops ts
  fun_induction iterate step a ts with
  | case1 a ts issue' rest raised stopped =>
    rw [stopped] at here
    cases found
    exact here issue rfl
  | case2 | case4 => cases found
  | case3 a ts a' rest raised _ _ ih => exact ih found ((steps a').stops rest)

instance {step : α → StageParser (Option α)} [steps : ∀ a, Strict (step a)] (a : α) :
    Strict (iterate step a) where
  stops ts issue found := by
    have : ∀ a, StopsAtErrors (step a) := inferInstance
    exact StopsAtErrors.stops ts issue found
  raises ts issue member := by
    have here := (steps a).raises ts
    fun_induction iterate step a ts with
    | case1 a ts issue' rest raised given | case2 a ts rest raised given
    | case4 a ts a' rest raised given =>
      rw [given] at here
      exact here issue member
    | case3 a ts a' rest raised given shorter ih =>
      rw [given] at here
      rcases List.mem_append.mp member with before | behind
      · exact here issue before
      · exact ih behind ((steps a').raises rest)

/-- A parser that refers to itself is strict if it is with any such parser in its own place. -/
theorem strict_fix {f : StageParser α → StageParser α} (step : ∀ p, Strict p → Strict (f p)) :
    Strict (fix f) := by
  have all (n : Nat) (ts : List Lexeme) (length : ts.length = n) :
      (∀ issue, (fix f ts).result = .error issue → issue.cause.IsError) ∧
        ∀ issue ∈ (fix f ts).raised, issue.cause.IsError := by
    induction n using Nat.strongRecOn generalizing ts with
    | ind n ih =>
      have inner : Strict fun us =>
          if us.length < ts.length then fix f us else fail (.expected .expression) us := by
        constructor <;> intro us issue found <;> by_cases shorter : us.length < ts.length
        · simp only [if_pos shorter] at found
          exact (ih us.length (length ▸ shorter) us rfl).1 issue found
        · simp only [if_neg shorter] at found
          exact Strict.stops us issue found
        · simp only [if_pos shorter] at found
          exact (ih us.length (length ▸ shorter) us rfl).2 issue found
        · simp only [if_neg shorter] at found
          exact Strict.raises us issue found
      rw [fix_run]
      exact ⟨(step _ inner).stops ts, (step _ inner).raises ts⟩
  exact ⟨fun ts => (all ts.length ts rfl).1, fun ts => (all ts.length ts rfl).2⟩

/-! Single lexemes and lists. -/

instance (kind : TokenKind) : Strict (eat kind) := by
  unfold eat
  infer_instance

instance (m : Mark) : Strict (eatMark m) := inferInstanceAs (Strict (eat _))
instance (k : Keyword) : Strict (eatKeyword k) := inferInstanceAs (Strict (eat _))

instance (kind : TokenKind) : Strict (expect kind) := by
  unfold expect
  infer_instance

instance (m : Mark) : Strict (expectMark m) := inferInstanceAs (Strict (expect _))
instance (k : Keyword) : Strict (expectKeyword k) := inferInstanceAs (Strict (expect _))

instance {item : β → StageParser β} (b : β) [∀ b, Strict (item b)] :
    Strict (behindCommas item b) := by
  unfold behindCommas
  infer_instance

instance {item : β → StageParser β} (b : β) [∀ b, Strict (item b)] : Strict (separated item b) := by
  unfold separated
  infer_instance

instance [Strict p] : Strict (list p) := by
  unfold list
  infer_instance

/-- An option is read where its name and sign come next. -/
theorem StopsAtErrors.of_option {k : Keyword} {g : Unit → StageParser β} {next : StageParser β}
    (passed : ∀ u, StopsAtErrors (g u)) (others : StopsAtErrors next) :
    StopsAtErrors (atOption k >>= fun found => if found = true then skip 2 >>= g else next) :=
  inferInstance

/-- Only the first item can stop a list that is lenient. -/
instance [StopsAtErrors p] : StopsAtErrors (lenientList p) := by
  have items (as : List α) : StopsAtErrors (do
      unless ← eatMark .comma do
        return none
      match ← attempt p with
      | .ok a => return some (a :: as)
      | .error issue =>
        raise issue
        skipAll
        return none : StageParser (Option (List α))) := by
    refine .bind fun comma => ?_
    split
    · refine .bind fun r => ?_
      cases r <;> infer_instance
    · infer_instance
  refine .bind fun first => ?_
  infer_instance

end Parser

end PipedQuery
