import PipedQuery.Proofs.Cursor.Stage
import PipedQuery.Proofs.Parser.Forward

/-!
# Reading a stage in the midst of a query

A parser at a cursor could read on behind the next pipe.  `Parser.Refines` says that it does nothing
of the kind: at every cursor it does what a parser of the stage does with the lexemes up to the pipe.
So it passes over what that one reads, gives the same value, raises the same issues at the same
tokens, and leaves everything else as it is.

It is a class, so that a parser that is made of such parsers is found to be one by itself.  Only where
a parser looks ahead, the pipe has to be told apart from what it looks for (`Parser.Fence`), and only
where it passes over lexemes without looking, the stage has to have as many of them.
-/

namespace PipedQuery

/-- Whether all issues are placed where at most `n` lexemes were left. -/
structure Outcome.Within {α : Type} (n : Nat) (o : StageOutcome α) : Prop where
  error : ∀ issue, o.result = .error issue → issue.remaining ≤ n
  raised : ∀ issue ∈ o.raised, issue.remaining ≤ n

namespace Cursor

variable {α β : Type}

/-! Parsers of a query that keep to the stage. -/

/-- Where in a query a parser runs: how many levels are open, how many tokens stand from the next
    boundary on, and at most how many up to it. -/
structure Setting where
  depth : Nat
  beyond : Nat
  length : Nat

/-- Whether the cursor stands in such a place. -/
structure In (c : Cursor) (e : Setting) : Prop where
  depth : c.depth = e.depth
  beyond : c.beyond.length = e.beyond
  short : c.stage.length ≤ e.length

/-- A parser of the stage stays in the setting. -/
theorem In.after {c : Cursor} {e : Setting} (inside : c.In e) {o : StageOutcome α}
    (suffix : o.rest <:+ c.stage) : (c.after o).rest.In e := by
  obtain ⟨stage, beyond⟩ := stage_after suffix
  refine ⟨inside.depth, beyond ▸ inside.beyond, ?_⟩
  rw [stage]
  exact Nat.le_trans suffix.length_le inside.short

/-- Whether what a parser of a query comes to at the cursor is what a parser comes to on the stage. -/
structure Mirrors (e : Setting) (c : Cursor) (seen : Outcome Cursor α) (o : StageOutcome α) :
    Prop where
  seen : seen = c.after o
  suffix : o.rest <:+ c.stage
  within : o.Within e.length

/-- One parser after another one. -/
theorem Mirrors.after {e : Setting} {c : Cursor} {seen : Outcome Cursor α} {o : StageOutcome α}
    (first : c.Mirrors e seen o) {seen' : Outcome Cursor β} {o' : StageOutcome β}
    (next : seen.rest.Mirrors e seen' o') :
    c.Mirrors e (seen'.after seen.raised) (o'.after o.raised) := by
  obtain ⟨rfl, suffix, within⟩ := first
  obtain ⟨rfl, suffix', within'⟩ := next
  rw [(stage_after suffix).1] at suffix'
  refine ⟨after_after suffix suffix', suffix'.trans suffix, within'.error, fun issue member => ?_⟩
  exact (List.mem_append.mp member).elim (within.raised issue) (within'.raised issue)

end Cursor

namespace Parser

open Cursor

variable {α β : Type}

/-- Whether `a` does at every cursor of the setting what `p` does with the stage, if at least `n`
    lexemes are left of it. -/
class Refines (e : Setting) (n : Nat) (a : Parser Cursor α) (p : StageParser α) : Prop where
  at_ : ∀ c : Cursor, c.In e → n ≤ c.stage.length → c.Mirrors e (a c) (p c.stage)

variable {e : Setting} {n m : Nat} {a : Parser Cursor α} {p : StageParser α}
  {f : α → Parser Cursor β} {g : α → StageParser β}

/-- What works with few lexemes works with more of them. -/
theorem Refines.mono (h : Refines e n a p) (more : n ≤ m) : Refines e m a p where
  at_ c inside enough := h.at_ c inside (Nat.le_trans more enough)

instance (priority := low) [h : Refines e 0 a p] : Refines e n a p := h.mono (Nat.zero_le n)

/-! Single steps. -/

theorem within_value {n : Nat} {x : α} {ts : List Lexeme} {raised : List Issue}
    (placed : ∀ issue ∈ raised, issue.remaining ≤ n) :
    (⟨.ok x, ts, raised⟩ : StageOutcome α).Within n where
  error _ same := by cases same
  raised := placed

theorem within_issue {n : Nat} {issue : Issue} {ts : List Lexeme} (placed : issue.remaining ≤ n) :
    (⟨.error issue, ts, []⟩ : StageOutcome α).Within n where
  error := by
    rintro _ ⟨⟩
    exact placed
  raised := List.forall_mem_nil _

theorem within_of_error {n : Nat} {issue : Issue} {rest rest' : List Lexeme} {raised : List Issue}
    (within : (⟨.error issue, rest, raised⟩ : StageOutcome α).Within n) :
    (⟨.error issue, rest', raised⟩ : StageOutcome β).Within n where
  error := by
    rintro _ ⟨⟩
    exact within.error issue rfl
  raised := within.raised

instance (x : α) : Refines e n (pure x) (pure x) where
  at_ c _ _ :=
    ⟨(c.after_stay (.ok x) []).symm, List.suffix_refl _, within_value (List.forall_mem_nil _)⟩

/-- A place that is told by its distance to the end is further from it where more tokens follow. -/
theorem refines_failAt {place : Nat} (placed : place ≤ e.length) (cause : Cause) :
    Refines e n (failAt (place + e.beyond) cause : Parser Cursor α) (failAt place cause) where
  at_ c inside _ := by
    refine ⟨?_, List.suffix_refl _, within_issue placed⟩
    rw [failAt_run, after_stay, inside.beyond]
    rfl

instance (cause : Cause) : Refines e n (fail cause : Parser Cursor α) (fail cause) where
  at_ c inside _ := by
    refine ⟨?_, List.suffix_refl _, within_issue inside.short⟩
    rw [fail_run, after_stay, fail, length_ahead]
    rfl

/-- The same holds of issues that are only raised. -/
theorem refines_raise {issue : Issue} (placed : issue.remaining ≤ e.length) :
    Refines e n (raise (issue.before e.beyond)) (raise issue) where
  at_ c inside _ := by
    refine ⟨?_, List.suffix_refl _, within_value (List.forall_mem_singleton.mpr placed)⟩
    rw [raise_run, after_stay, inside.beyond]
    rfl

theorem refines_raiseAt {place : Nat} (placed : place ≤ e.length) (cause : Cause) :
    Refines e n (raiseAt (place + e.beyond) cause) (raiseAt place cause) :=
  refines_raise (show Issue.remaining ⟨cause, place⟩ ≤ _ from placed)

/-- Lexemes may be passed over without looking at them where the stage has as many. -/
theorem refines_skip (enough : m ≤ n) : Refines e n (skip m) (skip m) where
  at_ c inside many := by
    refine ⟨?_, List.drop_suffix m _, within_value (List.forall_mem_nil _)⟩
    rw [skip_run, after_advance (Nat.le_trans enough many)]
    rfl

instance : Refines e n skipAll skipAll where
  at_ c _ _ := by
    refine ⟨?_, List.nil_suffix, within_value (List.forall_mem_nil _)⟩
    rw [skipAll_run, ← List.drop_length (l := c.stage), after_advance (Nat.le_refl _),
      ← synchronize_eq]
    rfl

instance : Refines e n atEnd atEnd where
  at_ c _ _ := by
    refine ⟨?_, List.suffix_refl _, within_value (List.forall_mem_nil _)⟩
    rw [atEnd_run, after_stay, ← atBoundary_eq]
    rfl

/-! Parsers made of parsers. -/

/-- Behind a parser the next one finds what is left of the stage. -/
theorem Refines.behind (next : Refines e 0 a p) {c : Cursor} (inside : c.In e)
    {seen : Outcome Cursor β} {o : StageOutcome β} (first : c.Mirrors e seen o) :
    c.Mirrors e ((a seen.rest).after seen.raised) ((p o.rest).after o.raised) := by
  have later := next.at_ seen.rest (first.seen ▸ inside.after first.suffix) (Nat.zero_le _)
  have left : seen.rest.stage = o.rest := first.seen ▸ (stage_after first.suffix).1
  rw [left] at later
  exact first.after later

/-- What follows a parser has to do with any part of the stage, even with none. -/
theorem Refines.andThen (first : Refines e n a p) (others : ∀ x, Refines e 0 (f x) (g x)) :
    Refines e n (a >>= f) (p >>= g) where
  at_ c inside many := by
    have here := first.at_ c inside many
    change c.Mirrors e ((a c).bind f) ((p c.stage).bind g)
    generalize a c = seen, p c.stage = o at here ⊢
    obtain ⟨rfl, suffix, within⟩ := here
    obtain ⟨issue | x, rest, raised⟩ := o
    · exact ⟨rfl, suffix, within_of_error within⟩
    · exact (others x).behind inside ⟨rfl, suffix, within⟩

theorem Refines.bind [first : Refines e n a p] (others : ∀ x, Refines e 0 (f x) (g x)) :
    Refines e n (a >>= f) (p >>= g) := first.andThen others

instance [Refines e n a p] [others : ∀ x, Refines e 0 (f x) (g x)] :
    Refines e n (a >>= f) (p >>= g) := .bind others

/-- Behind a parser that always stops it does not matter what would come. -/
instance (cause : Cause) : Refines e n (fail cause >>= f) (fail cause >>= g) where
  at_ c inside many := by
    have stopped : Refines e n (fail cause : Parser Cursor β) (fail cause) := inferInstance
    exact stopped.at_ c inside many

instance [Refines e n a p] : Refines e n (discard a : Parser Cursor PUnit) (discard p) :=
  inferInstanceAs (Refines e n (a >>= fun _ => pure PUnit.unit) (p >>= fun _ => pure PUnit.unit))

theorem Refines.ite (c : Prop) [Decidable c] {b : Parser Cursor α} {q : StageParser α}
    (yes : Refines e n a p) (no : Refines e n b q) :
    Refines e n (if c then a else b) (if c then p else q) := by
  split <;> assumption

instance (c : Prop) [Decidable c] {b : Parser Cursor α} {q : StageParser α} [yes : Refines e n a p]
    [no : Refines e n b q] : Refines e n (if c then a else b) (if c then p else q) := .ite c yes no

theorem Refines.of_skip {f : Unit → Parser Cursor β} {g : Unit → StageParser β} (enough : m ≤ n)
    (next : Refines e 0 (f ()) (g ())) : Refines e n (skip m >>= f) (skip m >>= g) :=
  (refines_skip enough).andThen fun _ => next

/-- Raising an issue reads nothing. -/
theorem Refines.of_raiseAt {f : Unit → Parser Cursor β} {g : Unit → StageParser β} {place : Nat}
    (placed : place ≤ e.length) {cause : Cause} (next : Refines e n (f ()) (g ())) :
    Refines e n (raiseAt (place + e.beyond) cause >>= f) (raiseAt place cause >>= g) where
  at_ c inside many := by
    have first := (refines_raiseAt (n := 0) placed cause).at_ c inside (Nat.zero_le _)
    have left : (raiseAt (place + e.beyond) cause c).rest.stage = c.stage := rfl
    have inside' : (raiseAt (place + e.beyond) cause c).rest.In e :=
      ⟨inside.depth, inside.beyond, inside.short⟩
    exact first.after (next.at_ _ inside' (left ▸ many))

/-- An issue keeps its distance to the boundary. -/
theorem Refines.of_attempt {f : Except Issue α → Parser Cursor β} {g : Except Issue α → StageParser β}
    (h : Refines e n a p) (value : ∀ x, Refines e 0 (f (.ok x)) (g (.ok x)))
    (issue : ∀ issue, issue.remaining ≤ e.length →
      Refines e 0 (f (.error (issue.before e.beyond))) (g (.error issue))) :
    Refines e n (attempt a >>= f) (attempt p >>= g) where
  at_ c inside many := by
    have here := h.at_ c inside many
    change c.Mirrors e ((f (a c).result (a c).rest).after (a c).raised)
      ((g (p c.stage).result (p c.stage).rest).after (p c.stage).raised)
    generalize a c = seen, p c.stage = o at here ⊢
    obtain ⟨rfl, suffix, within⟩ := here
    obtain ⟨stop | x, rest, raised⟩ := o
    · have stops := issue stop (within.error stop rfl)
      rw [← inside.beyond] at stops
      exact stops.behind inside ⟨rfl, suffix, within⟩
    · exact (value x).behind inside ⟨rfl, suffix, within⟩

/-! Looking ahead. -/

/-- Whether the lexemes are none or start with a pipe. -/
inductive Fence : List Lexeme → Prop where
  | none : Fence []
  | pipe {l : Lexeme} {us : List Lexeme} (kind : l.kind = .mark .pipe) : Fence (l :: us)

/-- Beyond the stage there is nothing, or a pipe comes first. -/
theorem fence_beyond (c : Cursor) : Fence (c.beyond.map Token.toLexeme) := by
  rw [beyond]
  induction c.tokens.drop c.pos with
  | nil => exact .none
  | cons t ts ih =>
    cases pipe : t.isPipe with
    | false => simpa [pipe] using ih
    | true =>
      rw [List.dropWhile_cons_of_neg (by simp [pipe])]
      exact .pipe (by simpa [Token.isPipe] using pipe)

/-- What a parser does that has looked ahead must not depend on the lexemes from the boundary on. -/
theorem Refines.of_look (look : List Lexeme → α)
    (seen : ∀ c, a c = ⟨.ok (look (Input.ahead c)), c, []⟩)
    (run : ∀ ts, p ts = ⟨.ok (look ts), ts, []⟩)
    (next : ∀ ts us, Fence us → n ≤ ts.length →
      Refines e ts.length (f (look (ts ++ us))) (g (look ts))) :
    Refines e n (a >>= f) (p >>= g) where
  at_ c inside many := by
    have here := (next c.stage _ (fence_beyond c) many).at_ c inside (Nat.le_refl _)
    rw [← ahead_eq] at here
    change c.Mirrors e ((a c).bind f) ((p c.stage).bind g)
    rw [seen, run]
    exact here

/-- A parser that looks at everything ahead must not see a difference beyond the stage. -/
theorem Refines.of_lexemes {f : List Lexeme → Parser Cursor β} {g : List Lexeme → StageParser β}
    (next : ∀ ts us, Fence us → n ≤ ts.length → Refines e ts.length (f (ts ++ us)) (g ts)) :
    Refines e n (lexemes >>= f) (lexemes >>= g) :=
  .of_look id (fun _ => rfl) (fun _ => rfl) next

/-- A parser that looks at the next lexeme has to do at a pipe what it does at the end. -/
theorem Refines.of_peek_pipe {f : Option Lexeme → Parser Cursor β} {g : Option Lexeme → StageParser β}
    (some : ∀ l, Refines e (max 1 n) (f (some l)) (g (some l)))
    (none : n = 0 → Refines e 0 (f none) (g none) ∧
      ∀ l : Lexeme, l.kind = .mark .pipe → ∃ q, Refines e 0 (f (.some l)) q ∧ q [] = g .none []) :
    Refines e n (peek >>= f) (peek >>= g) where
  at_ c inside many := by
    change c.Mirrors e (f (Input.ahead c).head? c) (g c.stage.head? c.stage)
    rw [ahead_eq]
    have fence := fence_beyond c
    cases left : c.stage with
    | cons l ts =>
      have enough : max 1 n ≤ c.stage.length := Nat.max_le.mpr ⟨by simp [left], many⟩
      have here := (some l).at_ c inside enough
      rw [left] at here
      exact here
    | nil =>
      have zero : n = 0 := Nat.le_zero.mp (by simpa [left] using many)
      obtain ⟨empty, blind⟩ := none zero
      cases beyond : c.beyond.map Token.toLexeme with
      | nil =>
        have here := empty.at_ c inside (Nat.zero_le _)
        rw [left] at here
        exact here
      | cons l us =>
        rw [beyond] at fence
        cases fence with
        | pipe kind =>
          obtain ⟨q, refines, same⟩ := blind l kind
          have here := refines.at_ c inside (Nat.zero_le _)
          rw [left, same] at here
          exact here

/-- A parser that looks at the next lexeme may take a pipe for the end. -/
theorem Refines.of_peek {f : Option Lexeme → Parser Cursor β} {g : Option Lexeme → StageParser β}
    (some : ∀ l, Refines e (max 1 n) (f (some l)) (g (some l)))
    (none : n = 0 → Refines e 0 (f none) (g none) ∧
      ∀ l : Lexeme, l.kind = .mark .pipe → f (.some l) = f .none) :
    Refines e n (peek >>= f) (peek >>= g) :=
  .of_peek_pipe some fun zero => ⟨(none zero).1, fun l pipe =>
    ⟨g .none, (none zero).2 l pipe ▸ (none zero).1, rfl⟩⟩

/-- Where the stage is not at its end, there is a lexeme to pass over. -/
theorem Refines.of_atEnd {f : Bool → Parser Cursor β} {g : Bool → StageParser β}
    (ends : Refines e 0 (f true) (g true)) (others : Refines e 1 (f false) (g false)) :
    Refines e n (atEnd >>= f) (atEnd >>= g) where
  at_ c inside _ := by
    change c.Mirrors e (f c.atBoundary c) (g c.stage.isEmpty c.stage)
    rw [atBoundary_eq]
    cases empty : c.stage.isEmpty with
    | true => exact ends.at_ c inside (Nat.zero_le _)
    | false =>
      exact others.at_ c inside (List.length_pos_iff.mpr (List.isEmpty_eq_false_iff.mp empty))

/-- A place is counted from the end of all tokens, and so keeps its distance to the boundary. -/
theorem Refines.of_remaining {f : Nat → Parser Cursor β} {g : Nat → StageParser β}
    (next : ∀ place ≤ e.length, Refines e n (f (place + e.beyond)) (g place)) :
    Refines e n (remaining >>= f) (remaining >>= g) where
  at_ c inside many := by
    have here := (next _ inside.short).at_ c inside many
    rw [← inside.beyond, ← length_ahead] at here
    exact here

/-! Loops and recursion. -/

/-- A parser reads something at a cursor if it reads something of the stage. -/
theorem length_ahead_after_lt (c : Cursor) {o : StageOutcome α} (suffix : o.rest <:+ c.stage) :
    (Input.ahead (c.after o).rest).length < (Input.ahead c).length ↔
      o.rest.length < c.stage.length := by
  obtain ⟨stage, beyond⟩ := stage_after suffix
  rw [length_ahead, length_ahead, stage, beyond]
  exact Nat.add_lt_add_iff_right

/-- A loop ends, or goes on, at a cursor where it does in the stage. -/
theorem Refines.iterate {step : α → Parser Cursor (Option α)} {step' : α → StageParser (Option α)}
    (steps : ∀ x, Refines e 0 (step x) (step' x)) (x : α) :
    Refines e n (iterate step x) (iterate step' x) where
  at_ c inside many := by
    clear many
    induction length : c.stage.length using Nat.strongRecOn generalizing c x with
    | ind k ih =>
      have here := (steps x).at_ c inside (Nat.zero_le _)
      rw [Parser.iterate, Parser.iterate]
      generalize step x c = seen, step' x c.stage = o at here ⊢
      obtain ⟨rfl, suffix, within⟩ := here
      obtain ⟨issue | ⟨_ | x'⟩, rest, raised⟩ := o
      · exact ⟨rfl, suffix, within_of_error within⟩
      · exact ⟨rfl, suffix, within_value within.raised⟩
      · have fewer := length_ahead_after_lt c suffix
        dsimp only [Cursor.after, Except.mapError, Input.ahead_list] at fewer ⊢
        by_cases shorter : rest.length < c.stage.length
        · rw [if_pos shorter, if_pos (fewer.mpr shorter)]
          have left := (stage_after suffix).1
          have next := ih rest.length (length ▸ shorter) x' _ (inside.after suffix)
            (congrArg List.length left)
          rw [left] at next
          exact Mirrors.after ⟨rfl, suffix, within⟩ next
        · rw [if_neg shorter, if_neg (mt fewer.mp shorter)]
          exact ⟨rfl, suffix, within_value within.raised⟩

instance {step : α → Parser Cursor (Option α)} {step' : α → StageParser (Option α)}
    [steps : ∀ x, Refines e 0 (step x) (step' x)] (x : α) :
    Refines e n (iterate step x) (iterate step' x) := .iterate steps x

/-- A parser that refers to itself keeps to the stage if it does so with any such parser in its own
    place. -/
theorem refines_fix {f : Parser Cursor α → Parser Cursor α} {g : StageParser α → StageParser α}
    (step : ∀ a p, Refines e 0 a p → Refines e 0 (f a) (g p)) : Refines e n (fix f) (fix g) where
  at_ c inside many := by
    clear many
    induction length : c.stage.length using Nat.strongRecOn generalizing c with
    | ind k ih =>
      rw [fix, fix]
      refine (step _ _ ⟨fun c' inside' _ => ?_⟩).at_ c inside (Nat.zero_le _)
      have fewer : (Input.ahead c').length < (Input.ahead c).length ↔
          c'.stage.length < c.stage.length := by
        rw [length_ahead, length_ahead, inside.beyond, inside'.beyond]
        exact Nat.add_lt_add_iff_right
      simp only [fewer, Input.ahead_list]
      split
      · next shorter => exact ih _ (length ▸ shorter) c' inside' rfl
      · have refused : Refines e 0 (fail (.expected .expression) : Parser Cursor α)
            (fail (.expected .expression)) := inferInstance
        exact refused.at_ c' inside' (Nat.zero_le _)

/-! Single lexemes and lists. -/

/-- Whether a lexeme of the kind can stand in the midst of a stage. -/
class IsInner (kind : TokenKind) : Prop where
  ne_pipe : kind ≠ .mark .pipe

instance (k : Keyword) : IsInner (.keyword k) := ⟨nofun⟩
instance : IsInner .integer := ⟨nofun⟩
instance : IsInner (.mark .comma) := ⟨by decide⟩
instance : IsInner (.mark .equal) := ⟨by decide⟩
instance : IsInner (.mark .less) := ⟨by decide⟩
instance : IsInner (.mark .greater) := ⟨by decide⟩
instance : IsInner (.mark .plus) := ⟨by decide⟩
instance : IsInner (.mark .minus) := ⟨by decide⟩
instance : IsInner (.mark .caret) := ⟨by decide⟩
instance : IsInner (.mark .lParen) := ⟨by decide⟩
instance : IsInner (.mark .rParen) := ⟨by decide⟩
instance : IsInner (.mark .lBracket) := ⟨by decide⟩
instance : IsInner (.mark .rBracket) := ⟨by decide⟩

variable {ts us : List Lexeme}

/-- What depends on no more than the next two kinds, and tells a pipe from neither the end nor what
    is behind the end, is the same for the stage. -/
theorem kinds_fence (F : Option TokenKind → Option TokenKind → α)
    (first : ∀ o, F (some (.mark .pipe)) o = F none none)
    (second : ∀ kind, F (some kind) (some (.mark .pipe)) = F (some kind) none) (fence : Fence us) :
    F (firstKind (ts ++ us)) (secondKind (ts ++ us)) = F (firstKind ts) (secondKind ts) := by
  rcases ts with _ | ⟨l, _ | ⟨l', ts⟩⟩
  · cases fence with
    | none => rfl
    | pipe kind =>
      rw [List.nil_append, firstKind_cons, kind]
      exact first _
  · cases fence with
    | none => rfl
    | pipe kind =>
      rw [List.singleton_append, secondKind_cons, firstKind_cons, firstKind_cons, kind]
      exact second _
  · rfl

/-- What comes next is told from the stage, or is a pipe behind it. -/
theorem firstKind_fence (ts : List Lexeme) (fence : Fence us) :
    firstKind (ts ++ us) = firstKind ts ∨
      ts = [] ∧ firstKind (ts ++ us) = some (.mark .pipe) := by
  cases ts with
  | cons l ts => exact .inl rfl
  | nil =>
    cases fence with
    | none => exact .inl rfl
    | pipe kind => exact .inr ⟨rfl, congrArg some kind⟩

/-- No pipe is taken for a lexeme that stands in the midst of a stage. -/
theorem firstKind_eq_iff (fence : Fence us) (kind : TokenKind) [inner : IsInner kind] :
    firstKind (ts ++ us) = some kind ↔ firstKind ts = some kind := by
  refine Iff.of_eq (kinds_fence (fun first _ => first = some kind) (fun _ => ?_) (fun _ => rfl) fence)
  simpa using inner.ne_pipe.symm

theorem length_pos_of_firstKind {kind : TokenKind} (h : firstKind ts = some kind) :
    0 < ts.length := by
  cases ts with
  | nil => cases h
  | cons l ts => exact Nat.succ_pos _

instance (kind : TokenKind) [IsInner kind] : Refines e n (check kind) (check kind) := by
  refine .of_lexemes fun ts us fence _ => ?_
  rw [decide_eq_decide.mpr (firstKind_eq_iff fence kind)]
  infer_instance

instance (kind : TokenKind) [IsInner kind] : Refines e n (eat kind) (eat kind) := by
  refine .of_look (fun ts => decide (firstKind ts = some kind)) (fun _ => rfl)
    (fun _ => rfl) fun ts us fence _ => ?_
  rw [decide_eq_decide.mpr (firstKind_eq_iff fence kind)]
  split
  · next found =>
    exact .of_skip (length_pos_of_firstKind (of_decide_eq_true found)) inferInstance
  · infer_instance

instance (m : Mark) [IsInner (.mark m)] : Refines e n (eatMark m) (eatMark m) :=
  inferInstanceAs (Refines e n (eat _) (eat _))

instance (k : Keyword) : Refines e n (eatKeyword k) (eatKeyword k) :=
  inferInstanceAs (Refines e n (eat _) (eat _))

instance (kind : TokenKind) [IsInner kind] : Refines e n (expect kind) (expect kind) := by
  unfold expect
  infer_instance

instance (m : Mark) [IsInner (.mark m)] : Refines e n (expectMark m) (expectMark m) :=
  inferInstanceAs (Refines e n (expect _) (expect _))

instance (k : Keyword) : Refines e n (expectKeyword k) (expectKeyword k) :=
  inferInstanceAs (Refines e n (expect _) (expect _))

/-- An option and its mark do not stand on both sides of a boundary. -/
theorem startsOption_fence (fence : Fence us) (k : Keyword) :
    startsOption k (ts ++ us) = startsOption k ts :=
  kinds_fence (fun first second => first = some (.keyword k) && second = some (.mark .equal))
    (by simp) (by simp) fence

/-- A name and its mark do not stand on both sides of a boundary. -/
theorem startsAssignment_fence (fence : Fence us) :
    startsAssignment (ts ++ us) = startsAssignment ts := by
  rcases ts with _ | ⟨l, _ | ⟨l', ts⟩⟩ <;> cases fence with
  | none => rfl
  | pipe kind => simp [startsAssignment, kind]

theorem length_of_startsAssignment (h : startsAssignment ts = true) : 2 ≤ ts.length := by
  rcases ts with _ | ⟨l, _ | ⟨l', ts⟩⟩
  · cases h
  · simp [startsAssignment] at h
  · simp

theorem length_of_startsOption {k : Keyword} (h : startsOption k ts = true) : 2 ≤ ts.length := by
  rcases ts with _ | ⟨l, _ | ⟨l', ts⟩⟩
  · cases h
  · simp [startsOption] at h
  · simp

/-- An option is passed over up to its value where its name and the mark `=` come next. -/
theorem Refines.of_option {k : Keyword} {f : Unit → Parser Cursor α} {g : Unit → StageParser α}
    (found : Refines e 0 (f ()) (g ())) (others : Refines e n a p) :
    Refines e n (atOption k >>= fun found => if found = true then skip 2 >>= f else a)
      (atOption k >>= fun found => if found = true then skip 2 >>= g else p) := by
  refine .of_look (startsOption k) (fun _ => rfl) (fun _ => rfl) fun ts us fence enough => ?_
  rw [startsOption_fence fence]
  split
  · next here => exact .of_skip (length_of_startsOption here) found
  · exact others.mono enough

section Items

variable {item : α → Parser Cursor α} {item' : α → StageParser α}
  [items : ∀ x, Refines e 0 (item x) (item' x)]

instance (x : α) : Refines e n (behindCommas item x) (behindCommas item' x) :=
  .iterate (fun _ => inferInstance) x

instance (x : α) : Refines e n (separated item x) (separated item' x) := by
  unfold separated
  infer_instance

end Items

instance [Refines e 0 a p] : Refines e n (list a) (list p) := by
  unfold list
  infer_instance

instance [Refines e 0 a p] : Refines e n (lenientList a) (lenientList p) := by
  refine .bind fun first => ?_
  refine .andThen (.iterate (fun items => ?_) _) fun items => inferInstance
  refine .bind fun comma => ?_
  split
  · refine .of_attempt inferInstance (fun x => inferInstance) fun issue placed => ?_
    exact (refines_raise placed).andThen fun _ => inferInstance
  · infer_instance

end Parser

end PipedQuery
