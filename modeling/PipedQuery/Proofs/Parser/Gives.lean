import PipedQuery.Proofs.Parser.Run
import PipedQuery.Proofs.Scan.Genuine

/-!
# What parsers give

`Parser.Gives A p P` says that on genuine lexemes the parser gives only values with the property and
leaves only genuine lexemes, as long as what it raises has causes in `A` only, and that it stops at
errors only.  There is one rule for each way to make a parser, so that what a whole grammar gives
follows by going through its definitions.
-/

namespace PipedQuery

/-- Whatever is expected in place of something else, that is an error. -/
theorem Cause.kind_expected_ne (what : Expected) :
    (Cause.expected what).kind none ≠ .invalidPattern := by
  cases what <;> nofun

namespace Outcome

variable {α : Type}

/-- Whether the issues that are raised on the way have causes of some kind only. -/
def Raises (A : Cause → Prop) (o : StageOutcome α) : Prop := ∀ issue ∈ o.raised, A issue.cause

/-- Whether only genuine lexemes are left, behind a value with the property or an error. -/
structure Gives (P : α → Prop) (o : StageOutcome α) : Prop where
  rest : Genuine o.rest
  value : ∀ {a}, o.result = .ok a → P a
  error : ∀ {issue}, o.result = .error issue → ¬issue.cause.IsWarning

theorem gives_ok {P : α → Prop} {a : α} {rest : List Lexeme} (genuine : Genuine rest) (h : P a)
    (raised : List Issue) : (⟨.ok a, rest, raised⟩ : StageOutcome α).Gives P where
  rest := genuine
  value := by
    rintro _ ⟨⟩
    exact h
  error := nofun

theorem gives_error {P : α → Prop} {issue : Issue} {rest : List Lexeme} (genuine : Genuine rest)
    (error : ¬issue.cause.IsWarning) (raised : List Issue) :
    (⟨.error issue, rest, raised⟩ : StageOutcome α).Gives P where
  rest := genuine
  value := nofun
  error := by
    rintro _ ⟨⟩
    exact error

/-- What is given does not depend on what has been raised before. -/
theorem Gives.after {P : α → Prop} {o : StageOutcome α} (h : o.Gives P) (raised : List Issue) :
    (o.after raised).Gives P := ⟨h.rest, h.value, h.error⟩

variable {A : Cause → Prop} {before behind : List Issue} {result : Except Issue α}
  {rest : List Lexeme}

/-- What is raised before is only a part of what is raised. -/
theorem Raises.left (h : (⟨result, rest, before ++ behind⟩ : StageOutcome α).Raises A) {β : Type}
    {result' : Except Issue β} {rest' : List Lexeme} :
    (⟨result', rest', before⟩ : StageOutcome β).Raises A :=
  fun issue member => h issue (List.mem_append_left behind member)

/-- What is raised later is only a part of what is raised. -/
theorem Raises.right {o : StageOutcome α} (h : (o.after before).Raises A) : o.Raises A :=
  fun issue member => h issue (List.mem_append_right before member)

end Outcome

namespace Parser

variable {A : Cause → Prop} {α β : Type} {P Q : α → Prop} {R : β → Prop} {p : StageParser α}
  {f : α → StageParser β}

/-- Whether the parser gives only values with the property, leaves only genuine lexemes, and stops at
    no mere warning, unless it raises an issue of another cause. -/
structure Gives (A : Cause → Prop) (p : StageParser α) (P : α → Prop) : Prop where
  run : ∀ {ts}, Genuine ts → (p ts).Raises A → (p ts).Gives P

/-- A value with a property has every weaker one. -/
theorem Gives.mono (h : Gives A p P) (weaker : ∀ a, P a → Q a) : Gives A p Q := by
  constructor
  intro ts genuine raises
  have given := h.run genuine raises
  exact ⟨given.rest, fun found => weaker _ (given.value found), given.error⟩

/-- A parser that raises nothing, reads nothing or passes over lexemes, and gives a value. -/
theorem gives_of_ok {a : List Lexeme → α} {n : Nat} (run : ∀ ts, p ts = ⟨.ok (a ts), ts.drop n, []⟩)
    (h : ∀ ts, Genuine ts → P (a ts)) : Gives A p P := by
  constructor
  intro ts genuine _
  rw [run]
  exact Outcome.gives_ok (genuine.drop n) (h ts genuine) []

theorem gives_pure {a : α} (h : P a) : Gives A (pure a) P :=
  gives_of_ok (n := 0) (fun _ => rfl) fun _ _ => h

/-- What follows a parser may rely on the property of its value. -/
theorem gives_bind (first : Gives A p P) (others : ∀ a, P a → Gives A (f a) R) :
    Gives A (p >>= f) R := by
  constructor
  intro ts genuine raises
  have given := first.run genuine
  rw [bind_run] at raises ⊢
  generalize p ts = o at given raises ⊢
  obtain ⟨⟨issue⟩ | ⟨a⟩, left, raised⟩ := o
  · have error := (given raises).error rfl
    exact Outcome.gives_error (given raises).rest error raised
  · have start := given raises.left
    exact ((others a (start.value rfl)).run start.rest raises.right).after raised

theorem gives_lexemes : Gives A lexemes Genuine :=
  gives_of_ok (n := 0) (fun _ => rfl) fun _ genuine => genuine

/-- The next lexeme is genuine, and so is what stands behind it. -/
theorem gives_peek : Gives A peek fun o => ∀ l ∈ o, ∃ next, l.IsGenuine next := by
  refine gives_of_ok (n := 0) (fun _ => rfl) fun ts genuine l first => ?_
  cases ts with
  | nil => cases first
  | cons l' ts =>
    cases first
    exact ⟨_, genuine.1⟩

theorem gives_remaining : Gives A remaining fun _ => True :=
  gives_of_ok (n := 0) (fun _ => rfl) fun _ _ => trivial

theorem gives_atEnd : Gives A atEnd fun _ => True :=
  gives_of_ok (n := 0) (fun _ => rfl) fun _ _ => trivial

theorem gives_skip (n : Nat) : Gives A (skip n) fun _ => True :=
  gives_of_ok (fun _ => rfl) fun _ _ => trivial

theorem gives_skipAll : Gives A skipAll fun _ => True := by
  constructor
  intro ts _ _
  exact Outcome.gives_ok (show Genuine [] from trivial) trivial []

/-- An issue that a parser stops at is no warning, so a faulty pattern is never one. -/
theorem gives_failAt (place : Nat) (cause : Cause) (error : cause.kind none ≠ .invalidPattern) :
    Gives A (failAt place cause) P := by
  constructor
  intro ts genuine _
  exact Outcome.gives_error genuine (fun warning => error (warning none)) []

theorem gives_fail (cause : Cause) (error : cause.kind none ≠ .invalidPattern) :
    Gives A (fail cause) P := by
  constructor
  intro ts genuine _
  exact Outcome.gives_error genuine (fun warning => error (warning none)) []

/-- Behind an issue that is raised, its cause is one of those that may be raised. -/
theorem gives_raise (issue : Issue) : Gives A (raise issue) fun _ => A issue.cause := by
  constructor
  intro ts genuine raises
  have allowed : A issue.cause := raises issue List.mem_cons_self
  exact Outcome.gives_ok (P := fun _ => A issue.cause) genuine allowed [issue]

theorem gives_raiseAt (place : Nat) (cause : Cause) :
    Gives A (raiseAt place cause) fun _ => A cause := gives_raise ⟨cause, place⟩

/-- An issue that is made a value is still no warning. -/
theorem gives_attempt (h : Gives A p P) : Gives A (attempt p) fun r =>
    (∀ a, r = .ok a → P a) ∧ ∀ issue, r = .error issue → ¬issue.cause.IsWarning := by
  constructor
  intro ts genuine raises
  have given := h.run genuine raises
  exact Outcome.gives_ok given.rest ⟨fun _ => given.value, fun _ => given.error⟩ (p ts).raised

/-- A property that every step keeps holds behind a loop. -/
theorem gives_iterate {step : α → StageParser (Option α)} {a : α}
    (steps : ∀ a, P a → Gives A (step a) fun o => ∀ b ∈ o, P b) (h : P a) :
    Gives A (iterate step a) P := by
  constructor
  intro ts genuine raises
  have given := (steps a h).run genuine
  fun_induction iterate step a ts with
  | case1 a ts issue rest raised found =>
    rw [found] at given
    exact Outcome.gives_error (given raises).rest ((given raises).error rfl) raised
  | case2 a ts rest raised found =>
    rw [found] at given
    exact Outcome.gives_ok (given raises).rest h raised
  | case3 a ts a' rest raised found shorter ih =>
    rw [found] at given
    have start := given raises.left
    have next := start.value rfl a' rfl
    exact (ih next start.rest raises.right ((steps a' next).run start.rest)).after raised
  | case4 a ts a' rest raised found =>
    rw [found] at given
    exact Outcome.gives_ok (given raises).rest ((given raises).value rfl a' rfl) raised

/-- A parser that refers to itself gives what its body gives, whatever parser of that kind stands for
    the inner one. -/
theorem gives_fix {f : StageParser α → StageParser α} (step : ∀ p, Gives A p P → Gives A (f p) P) :
    Gives A (fix f) P := by
  constructor
  intro ts genuine raises
  induction length : ts.length using Nat.strongRecOn generalizing ts with
  | ind n ih =>
    have inner : Gives A (fun us => if us.length < ts.length then fix f us
        else fail (.expected .expression) us) P := by
      constructor
      intro us genuine raises
      by_cases shorter : us.length < ts.length
      · simp only [if_pos shorter] at raises ⊢
        exact ih _ (length ▸ shorter) genuine raises rfl
      · simp only [if_neg shorter] at raises ⊢
        exact (gives_fail _ (Cause.kind_expected_ne _)).run genuine raises
    rw [fix_run] at raises ⊢
    exact (step _ inner).run genuine raises

/-! Optional values. -/

theorem forall_mem_some {a : α} (h : P a) : ∀ b ∈ some a, P b := by
  rintro b ⟨⟩
  exact h

theorem forall_mem_none : ∀ b ∈ (none : Option α), P b := nofun

theorem gives_some {a : α} (h : P a) : Gives A (pure (some a)) fun o => ∀ b ∈ o, P b :=
  gives_pure (forall_mem_some h)

theorem gives_none : Gives A (pure (none : Option α)) fun o => ∀ b ∈ o, P b :=
  gives_pure forall_mem_none

/-! Single lexemes. -/

theorem gives_check (kind : TokenKind) : Gives A (check kind) fun _ => True :=
  gives_bind gives_lexemes fun _ _ => gives_pure trivial

theorem gives_eat (kind : TokenKind) : Gives A (eat kind) fun _ => True := by
  apply gives_bind (gives_check kind)
  intro found _
  cases found
  · exact gives_pure trivial
  · exact gives_bind (gives_skip 1) fun _ _ => gives_pure trivial

theorem gives_eatMark (m : Mark) : Gives A (eatMark m) fun _ => True := gives_eat _

theorem gives_eatKeyword (k : Keyword) : Gives A (eatKeyword k) fun _ => True := gives_eat _

theorem gives_expect (kind : TokenKind) : Gives A (expect kind) fun _ => True := by
  apply gives_bind (gives_eat kind)
  intro found _
  cases found
  · exact gives_fail _ nofun
  · exact gives_pure trivial

theorem gives_expectMark (m : Mark) : Gives A (expectMark m) fun _ => True := gives_expect _

theorem gives_expectKeyword (k : Keyword) : Gives A (expectKeyword k) fun _ => True := gives_expect _

theorem gives_atOption (k : Keyword) : Gives A (atOption k) fun _ => True :=
  gives_bind gives_lexemes fun _ _ => gives_pure trivial

theorem gives_atAssignment : Gives A atAssignment fun _ => True :=
  gives_bind gives_lexemes fun _ _ => gives_pure trivial

/-! Lists.  A list has at least one item. -/

theorem gives_behindCommas {item : α → StageParser α} {a : α} (items : ∀ a, P a → Gives A (item a) P)
    (h : P a) : Gives A (behindCommas item a) P := by
  apply gives_iterate _ h
  intro a ha
  apply gives_bind (gives_eatMark .comma)
  intro comma _
  cases comma
  · exact gives_none
  · exact gives_bind (items a ha) fun b hb => gives_some hb

theorem gives_separated {item : α → StageParser α} {a : α} (first : Gives A (item a) P)
    (items : ∀ a, P a → Gives A (item a) P) : Gives A (separated item a) P :=
  gives_bind first fun _ h => gives_behindCommas items h

/-- A list has at least one item, and every item has the property. -/
theorem gives_list (h : Gives A p P) : Gives A (list p) fun as => as ≠ [] ∧ ∀ a ∈ as, P a := by
  have items (as : List α) (all : ∀ a ∈ as, P a) :
      Gives A (do return (← p) :: as) fun as => as ≠ [] ∧ ∀ a ∈ as, P a := by
    apply gives_bind h
    intro a ha
    apply gives_pure
    exact ⟨List.cons_ne_nil a as, List.forall_mem_cons.mpr ⟨ha, all⟩⟩
  apply gives_bind (gives_separated (items [] nofun) fun as all => items as all.2)
  intro as all
  apply gives_pure
  exact ⟨mt List.reverse_eq_nil_iff.mp all.1, fun a member => all.2 a (List.mem_reverse.mp member)⟩

/-- A list that drops its faulty tail has at least one item still. -/
theorem gives_lenientList (h : Gives A p P) :
    Gives A (lenientList p) fun as => as ≠ [] ∧ ∀ a ∈ as, P a := by
  apply gives_bind h
  intro first hfirst
  have start : [first] ≠ [] ∧ ∀ a ∈ [first], P a :=
    ⟨List.cons_ne_nil first [], List.forall_mem_singleton.mpr hfirst⟩
  refine gives_bind (P := fun as => as ≠ [] ∧ ∀ a ∈ as, P a) (gives_iterate ?_ start) ?_
  · intro as all
    apply gives_bind (gives_eatMark .comma)
    intro comma _
    cases comma
    · exact gives_none
    apply gives_bind (gives_attempt h)
    rintro (issue | a) found
    · apply gives_bind (gives_raise issue)
      intro _ _
      exact gives_bind gives_skipAll fun _ _ => gives_none
    · have ha := found.1 a rfl
      exact gives_some ⟨List.cons_ne_nil a as, List.forall_mem_cons.mpr ⟨ha, all.2⟩⟩
  · intro as all
    apply gives_pure
    exact ⟨mt List.reverse_eq_nil_iff.mp all.1,
      fun a member => all.2 a (List.mem_reverse.mp member)⟩

end Parser

end PipedQuery
