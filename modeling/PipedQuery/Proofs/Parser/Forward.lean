import PipedQuery.Proofs.Parser.Run

/-!
# Parsers only go forward

A parser `Advances` if what it leaves is always an end of what it was given, whether it gives a value
or stops at an issue.  It `Enters` if it leaves the first lexeme behind wherever there is one, and it
`Consumes` if it reads at least one lexeme before it gives a value.

The first is a class, so that what a combinator needs of the parsers it is made of is found by
itself.  Only where a parser looks at what comes next, the cases have to be told apart.

A step of a loop `Strides` if it reads something whenever the loop is to go on.  Such a loop is never
cut short (`Parser.iterate_eq`).
-/

namespace PipedQuery

namespace Parser

variable {α β : Type} {p : StageParser α} {f : α → StageParser β}

/-- Whether what the parser leaves is an end of what it was given. -/
class Advances (p : StageParser α) : Prop where
  rest_suffix : ∀ ts, (p ts).rest <:+ ts

/-- Whether the parser leaves the first lexeme behind, if there is one. -/
structure Enters (p : StageParser α) : Prop where
  advances : Advances p
  rest_suffix_tail : ∀ l ts, (p (l :: ts)).rest <:+ ts

/-- Whether the parser reads a lexeme at least before it gives a value with the property. -/
structure ConsumesIf (P : α → Prop) (p : StageParser α) : Prop where
  advances : Advances p
  shorter : ∀ ts a, (p ts).result = .ok a → P a → (p ts).rest.length < ts.length

/-- Whether the parser reads a lexeme at least before it gives a value. -/
abbrev Consumes (p : StageParser α) : Prop := ConsumesIf (fun _ => True) p

/-- Whether the step of a loop reads a lexeme at least before it gives a value to go on with. -/
abbrev Strides (p : StageParser (Option α)) : Prop := ConsumesIf (·.isSome = true) p

/-- What a run leaves is an end of what it was given. -/
theorem suffix_of_run [forward : Advances p] {ts rest : List Lexeme} {result : Except Issue α}
    {raised : List Issue} (run : p ts = ⟨result, rest, raised⟩) : rest <:+ ts := by
  have suffix := forward.rest_suffix ts
  rwa [run] at suffix

/-- A value is given behind fewer lexemes than there were. -/
theorem Consumes.lt_of_run (consumes : Consumes p) {ts rest : List Lexeme} {a : α}
    {raised : List Issue} (run : p ts = ⟨.ok a, rest, raised⟩) : rest.length < ts.length := by
  have shorter := consumes.shorter ts a (by rw [run]) trivial
  rwa [run] at shorter

/-! Single steps. -/

/-- Dropping some lexemes leaves an end of them. -/
theorem advances_of_drop {n : Nat} (run : ∀ ts, (p ts).rest = ts.drop n) : Advances p where
  rest_suffix ts := run ts ▸ List.drop_suffix n ts

instance (a : α) : Advances (pure a) := advances_of_drop (n := 0) fun _ => rfl
instance : Advances lexemes := advances_of_drop (n := 0) fun _ => rfl
instance : Advances peek := advances_of_drop (n := 0) fun _ => rfl
instance : Advances remaining := advances_of_drop (n := 0) fun _ => rfl
instance : Advances atEnd := advances_of_drop (n := 0) fun _ => rfl
instance (n : Nat) : Advances (skip n) := advances_of_drop fun _ => rfl
instance : Advances skipAll := ⟨fun _ => List.nil_suffix⟩
instance (place : Nat) (cause : Cause) : Advances (failAt place cause : StageParser α) :=
  advances_of_drop (n := 0) fun _ => rfl
instance (cause : Cause) : Advances (fail cause : StageParser α) :=
  advances_of_drop (n := 0) fun _ => rfl
instance (issue : Issue) : Advances (raise issue) := advances_of_drop (n := 0) fun _ => rfl
instance (place : Nat) (cause : Cause) : Advances (raiseAt place cause) :=
  advances_of_drop (n := 0) fun _ => rfl
instance (kind : TokenKind) : Advances (check kind) := advances_of_drop (n := 0) fun _ => rfl
instance (k : Keyword) : Advances (atOption k) := advances_of_drop (n := 0) fun _ => rfl
instance : Advances atAssignment := advances_of_drop (n := 0) fun _ => rfl

/-! Parsers made of parsers. -/

/-- What stops at once leaves what its first part leaves. -/
theorem rest_bind_of_error {ts : List Lexeme} {issue : Issue} (h : (p ts).result = .error issue) :
    ((p >>= f) ts).rest = (p ts).rest ∧ ((p >>= f) ts).result = .error issue := by
  rw [bind_run]
  generalize p ts = o at h ⊢
  obtain ⟨result, rest, raised⟩ := o
  cases h
  exact ⟨rfl, rfl⟩

/-- What goes on behind a value leaves what its second part leaves. -/
theorem rest_bind_of_ok {ts : List Lexeme} {a : α} (h : (p ts).result = .ok a) :
    ((p >>= f) ts).rest = (f a (p ts).rest).rest ∧
      ((p >>= f) ts).result = (f a (p ts).rest).result := by
  rw [bind_run]
  generalize p ts = o at h ⊢
  obtain ⟨result, rest, raised⟩ := o
  cases h
  exact ⟨rfl, rfl⟩

theorem Advances.bind [first : Advances p] (others : ∀ a, Advances (f a)) : Advances (p >>= f) := by
  constructor
  intro ts
  cases found : (p ts).result with
  | error issue =>
    rw [(rest_bind_of_error found).1]
    exact first.rest_suffix ts
  | ok a =>
    rw [(rest_bind_of_ok found).1]
    exact ((others a).rest_suffix _).trans (first.rest_suffix ts)

instance [Advances p] [others : ∀ a, Advances (f a)] : Advances (p >>= f) := .bind others

/-- Behind a parser that always stops it does not matter what would come. -/
instance (cause : Cause) : Advances (fail cause >>= f) := advances_of_drop (n := 0) fun _ => rfl

instance [Advances p] : Advances (discard p : StageParser PUnit) :=
  inferInstanceAs (Advances (p >>= fun _ => pure PUnit.unit))

instance (c : Prop) [Decidable c] {q : StageParser α} [Advances p] [Advances q] :
    Advances (if c then p else q) := by
  split <;> assumption

instance [h : Advances p] : Advances (attempt p) := ⟨h.rest_suffix⟩

/-- A parser that refers to itself goes forward if it does so with any such parser in its own place. -/
theorem advances_fix {f : StageParser α → StageParser α} (step : ∀ p, Advances p → Advances (f p)) :
    Advances (fix f) := by
  constructor
  intro ts
  induction length : ts.length using Nat.strongRecOn generalizing ts with
  | ind n ih =>
    rw [fix_run]
    apply (step _ _).rest_suffix
    constructor
    intro us
    by_cases shorter : us.length < ts.length
    · simp only [if_pos shorter]
      exact ih _ (length ▸ shorter) us rfl
    · simp only [if_neg shorter]
      exact List.suffix_refl us

/-! Single lexemes. -/

instance (kind : TokenKind) : Advances (eat kind) := by
  unfold eat
  infer_instance

instance (m : Mark) : Advances (eatMark m) := inferInstanceAs (Advances (eat _))
instance (k : Keyword) : Advances (eatKeyword k) := inferInstanceAs (Advances (eat _))

instance (kind : TokenKind) : Advances (expect kind) := by
  unfold expect
  infer_instance

instance (m : Mark) : Advances (expectMark m) := inferInstanceAs (Advances (expect _))
instance (k : Keyword) : Advances (expectKeyword k) := inferInstanceAs (Advances (expect _))

/-! Parsers that read something. -/

/-- Passing over a lexeme leaves the first one behind. -/
theorem Enters.of_skip {n : Nat} {f : Unit → StageParser β} (others : ∀ u, Advances (f u)) :
    Enters (skip (n + 1) >>= f) where
  advances := .bind others
  rest_suffix_tail _ ts := ((others ()).rest_suffix (ts.drop n)).trans (List.drop_suffix n ts)

/-- Looking at the lexemes that are left reads none of them. -/
theorem Enters.of_look {look : List Lexeme → α} (run : ∀ ts, p ts = ⟨.ok (look ts), ts, []⟩)
    (others : ∀ a, Enters (f a)) : Enters (p >>= f) where
  advances :=
    have first : Advances p := advances_of_drop (n := 0) fun ts => by rw [run]; rfl
    .bind fun a => (others a).advances
  rest_suffix_tail l ts := by
    rw [bind_run, run]
    exact (others _).rest_suffix_tail l ts

/-- The lexeme stays behind whatever is read next. -/
theorem Enters.bind (first : Enters p) (others : ∀ a, Advances (f a)) : Enters (p >>= f) where
  advances :=
    have := first.advances
    .bind others
  rest_suffix_tail l ts := by
    cases found : (p (l :: ts)).result with
    | error issue =>
      rw [(rest_bind_of_error found).1]
      exact first.rest_suffix_tail l ts
    | ok a =>
      rw [(rest_bind_of_ok found).1]
      exact ((others a).rest_suffix _).trans (first.rest_suffix_tail l ts)

/-- Leaving a lexeme behind is reading something. -/
theorem Enters.shorter (enters : Enters p) (l : Lexeme) (ts : List Lexeme) :
    (p (l :: ts)).rest.length < (l :: ts).length :=
  Nat.lt_succ_of_le (enters.rest_suffix_tail l ts).length_le

section Consuming

variable {P : α → Prop} {Q : β → Prop}

theorem consumesIf_fail (cause : Cause) : ConsumesIf P (fail cause) where
  advances := inferInstance
  shorter := nofun

theorem consumesIf_fail_bind (cause : Cause) : ConsumesIf Q (fail cause >>= f) where
  advances := inferInstance
  shorter := nofun

/-- A lexeme that is found is read. -/
theorem consumesIf_eat (kind : TokenKind) : ConsumesIf (· = true) (eat kind) where
  advances := inferInstance
  shorter ts found given eaten := by
    subst eaten
    rw [eat_run] at given ⊢
    cases ts with
    | nil => cases given
    | cons l ts =>
      split at given
      · next here =>
        rw [if_pos here]
        exact Nat.lt_succ_self _
      · cases given

/-- A lexeme that has to be there is read, or there is no value. -/
theorem consumes_expect (kind : TokenKind) : Consumes (expect kind) where
  advances := inferInstance
  shorter ts a found _ := by
    have eaten := (consumesIf_eat kind).shorter ts true
    rw [eat_run] at eaten
    simp only [expect, bind_run, eat_run] at found ⊢
    split at found
    · next here =>
      rw [if_pos here] at eaten ⊢
      exact eaten rfl rfl
    · cases found

theorem strides_none : Strides (pure (none : Option α)) where
  advances := inferInstance
  shorter := by
    rintro ts a ⟨⟩ ⟨⟩

/-- Either the first parser reads a lexeme, or the others do. -/
theorem ConsumesIf.bind (first : ConsumesIf P p) (passed : ∀ a, P a → Advances (f a))
    (others : ∀ a, ¬P a → ConsumesIf Q (f a)) : ConsumesIf Q (p >>= f) where
  advances :=
    have := first.advances
    .bind fun a => by
      by_cases h : P a
      · exact passed a h
      · exact (others a h).advances
  shorter ts b found property := by
    cases read : (p ts).result with
    | error issue =>
      rw [(rest_bind_of_error read).2] at found
      cases found
    | ok a =>
      rw [(rest_bind_of_ok read).2] at found
      rw [(rest_bind_of_ok read).1]
      by_cases h : P a
      · exact Nat.lt_of_le_of_lt ((passed a h).rest_suffix _).length_le (first.shorter ts a read h)
      · exact Nat.lt_of_lt_of_le ((others a h).shorter _ b found property)
          (first.advances.rest_suffix ts).length_le

/-- What reads something at its start reads something. -/
theorem Consumes.bind (first : Consumes p) (others : ∀ a, Advances (f a)) :
    ConsumesIf Q (p >>= f) :=
  ConsumesIf.bind first (fun a _ => others a) fun _ no => absurd trivial no

/-- What reads something at its end reads something. -/
theorem ConsumesIf.after [first : Advances p] (others : ∀ a, ConsumesIf Q (f a)) :
    ConsumesIf Q (p >>= f) :=
  ConsumesIf.bind (P := fun _ => False) ⟨first, fun _ _ _ no => no.elim⟩ (fun _ no => no.elim)
    fun a _ => others a

/-- Behind a look at the lexemes that are left it is known whether there is one. -/
theorem ConsumesIf.of_look {look : List Lexeme → α} (run : ∀ ts, p ts = ⟨.ok (look ts), ts, []⟩)
    (none : ConsumesIf Q (f (look [])))
    (some : ∀ l ts, ConsumesIf Q (f (look (l :: ts))) ∨ Enters (f (look (l :: ts)))) :
    ConsumesIf Q (p >>= f) where
  advances := by
    constructor
    intro ts
    rw [bind_run, run, Outcome.bind_ok, Outcome.after_nil]
    cases ts with
    | nil => exact none.advances.rest_suffix []
    | cons l ts =>
      rcases some l ts with consumes | enters
      · exact consumes.advances.rest_suffix _
      · exact enters.advances.rest_suffix _
  shorter ts b found property := by
    rw [bind_run, run, Outcome.bind_ok, Outcome.after_nil] at found ⊢
    cases ts with
    | nil => exact none.shorter [] b found property
    | cons l ts =>
      rcases some l ts with consumes | enters
      · exact consumes.shorter _ b found property
      · exact enters.shorter l ts

/-- An option is read where its name and sign come next. -/
theorem ConsumesIf.of_option {k : Keyword} {g : Unit → StageParser β} {next : StageParser β}
    (passed : ∀ u, Advances (g u)) (others : ConsumesIf Q next) :
    ConsumesIf Q (atOption k >>= fun found => if found = true then skip 2 >>= g else next) := by
  refine .of_look (fun ts => atOption_run ts k) others fun l ts => ?_
  split
  · exact .inr (.of_skip passed)
  · exact .inl others

theorem Enters.of_option {k : Keyword} {g : Unit → StageParser β} {next : StageParser β}
    (passed : ∀ u, Advances (g u)) (others : Enters next) :
    Enters (atOption k >>= fun found => if found = true then skip 2 >>= g else next) := by
  refine .of_look (fun ts => atOption_run ts k) fun found => ?_
  split
  · exact .of_skip passed
  · exact others

end Consuming

/-! Loops and recursion. -/

/-- A parser that refers to itself reads something if it does so with any parser that goes forward
    in its own place. -/
theorem consumes_fix {f : StageParser α → StageParser α} (step : ∀ p, Advances p → Consumes (f p)) :
    Consumes (fix f) := by
  have forward : Advances (fix f) := advances_fix fun p h => (step p h).advances
  constructor
  · exact forward
  intro ts a found _
  rw [fix_run] at found ⊢
  refine (step _ ?_).shorter ts a found trivial
  constructor
  intro us
  by_cases shorter : us.length < ts.length
  · simp only [if_pos shorter]
    exact forward.rest_suffix us
  · simp only [if_neg shorter]
    exact List.suffix_refl us

/-- A loop whose steps stride goes on as long as they tell it to. -/
theorem iterate_eq {step : α → StageParser (Option α)} (strides : ∀ a, Strides (step a)) (a : α) :
    iterate step a = (do
      match ← step a with
      | some a => iterate step a
      | none => return a) := by
  funext ts
  rw [iterate, bind_run]
  have shorter := (strides a).shorter ts
  generalize step a ts = o at shorter ⊢
  obtain ⟨⟨issue⟩ | ⟨none | a'⟩, rest, raised⟩ := o
  · rfl
  · simp
  · simp only [Input.ahead_list, if_pos (shorter (some a') rfl rfl), Outcome.bind_ok]

instance {step : α → StageParser (Option α)} [forward : ∀ a, Advances (step a)] (a : α) :
    Advances (iterate step a) := by
  constructor
  intro ts
  have start := (forward a).rest_suffix ts
  fun_induction iterate step a ts with
  | case1 a ts issue rest raised found | case2 a ts rest raised found | case4 a ts _ rest raised found =>
    rw [found] at start
    exact start
  | case3 a ts a' rest raised found shorter ih =>
    rw [found] at start
    exact (ih ((forward a').rest_suffix rest)).trans start

instance {item : β → StageParser β} (b : β) [∀ b, Advances (item b)] :
    Advances (behindCommas item b) := by
  unfold behindCommas
  infer_instance

instance {item : β → StageParser β} (b : β) [∀ b, Advances (item b)] :
    Advances (separated item b) := by
  unfold separated
  infer_instance

instance [Advances p] : Advances (list p) := by
  unfold list
  infer_instance

instance [Advances p] : Advances (lenientList p) := by
  refine .bind fun first => ?_
  have items (as : List α) : Advances (do
      unless ← eatMark .comma do
        return none
      match ← attempt p with
      | .ok a => return some (a :: as)
      | .error issue =>
        raise issue
        skipAll
        return none : StageParser (Option (List α))) := by
    refine .bind fun comma => ?_
    split
    · refine .bind fun r => ?_
      cases r <;> infer_instance
    · infer_instance
  infer_instance

end Parser

end PipedQuery
