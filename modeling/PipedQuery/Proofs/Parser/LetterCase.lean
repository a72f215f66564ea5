import PipedQuery.Command
import PipedQuery.Grammar.Call
import PipedQuery.Proofs.Parser.Run
import PipedQuery.Proofs.Scan.LetterCase

/-!
# Parsers and letter case

Two parsers run `Parallel` if the one does with some lexemes what the other does with the lowered
ones: both give a value or both stop, and as many lexemes are left.  The values differ in their
texts, and so do the issues.  How far two values have to agree is the `Shape` of their type, which
asks for what the parsers behind them look at, and mostly that is nothing.

There are two parsers and not one, because what is read behind a value depends on it.
-/

namespace PipedQuery

/-- How far values of a type have to agree for parsers to go on in parallel. -/
class Shape (α : Type) where
  Agree : α → α → Prop

/-- Whether the values agree as far as their type asks for. -/
class Agrees {α : Type} [Shape α] (a b : α) : Prop where
  agree : Shape.Agree a b

/-- Two values that agree. -/
structure Twins (α : Type) [Shape α] where
  fst : α
  snd : α
  agree : Shape.Agree fst snd

namespace Shape

/-- No parser looks at values of most types again. -/
instance (priority := low) blank (α : Type) : Shape α := ⟨fun _ _ => True⟩

instance {α : Type} (a b : α) : @Agrees α (blank α) a b := @Agrees.mk α (blank α) a b trivial

instance : Shape Bool := ⟨Eq⟩

instance (b : Bool) : Agrees b b := ⟨rfl⟩

variable {α ε : Type} [Shape α]

instance (t : Twins α) : Agrees t.fst t.snd := ⟨t.agree⟩

instance : Shape (Option α) := ⟨Option.Rel Agree⟩

instance : Agrees (none : Option α) none := ⟨.none⟩

instance {a b : α} [h : Agrees a b] : Agrees (some a) (some b) := ⟨.some h.agree⟩

/-- Whether both are issues or both are values that agree. -/
inductive ExceptRel : Except ε α → Except ε α → Prop where
  | error (e e' : ε) : ExceptRel (.error e) (.error e')
  | ok (a b : α) (agree : Agree a b) : ExceptRel (.ok a) (.ok b)

instance : Shape (Except ε α) := ⟨ExceptRel⟩

/-- A weight has to be a number. -/
instance : Shape Literal := ⟨fun a b => a.isNumeric = b.isNumeric⟩

instance (v : Literal) : Agrees v v := ⟨rfl⟩
instance (s t : String) : Agrees (Literal.str s) (.str t) := ⟨rfl⟩
instance (b c : Bool) : Agrees (Literal.bool b) (.bool c) := ⟨rfl⟩

theorem isNumeric_neg (v : Literal) : v.neg.isNumeric = v.isNumeric := by
  cases v <;> rfl

instance {v w : Literal} [h : Agrees v w] : Agrees v.neg w.neg :=
  ⟨(isNumeric_neg v).trans (h.agree.trans (isNumeric_neg w).symm)⟩

/-- Options of a relevance function are read once there are enough arguments, and then nothing but
    options is. -/
instance : Shape Parser.RelevanceArguments :=
  ⟨fun a b => a.args.length = b.args.length ∧ a.sawOption = b.sawOption⟩

instance (a : Parser.RelevanceArguments) : Agrees a a := ⟨rfl, rfl⟩

/-- Of a command its name is what counts in the end. -/
instance : Shape Command := ⟨fun c d => c.name = d.name⟩

instance (s t : Search) : Agrees (Command.search s) (.search t) := ⟨rfl⟩
instance (s t : DataSource) : Agrees (Command.describe s) (.describe t) := ⟨rfl⟩
instance : Agrees Command.showDatasources .showDatasources := ⟨rfl⟩
instance (e e' : Expr) : Agrees (Command.filter e) (.filter e') := ⟨rfl⟩
instance (exclude exclude' : Bool) (names names' : List String) :
    Agrees (Command.fields exclude names) (.fields exclude' names') := ⟨rfl⟩
instance (rs rs' : List Renaming) : Agrees (Command.rename rs) (.rename rs') := ⟨rfl⟩
instance (s t : Stats) : Agrees (Command.stats s) (.stats t) := ⟨rfl⟩
instance (d d' : Dedup) : Agrees (Command.dedup d) (.dedup d') := ⟨rfl⟩
instance (keys keys' : List SortKey) : Agrees (Command.sort keys) (.sort keys') := ⟨rfl⟩
instance (as bs : List Assignment) : Agrees (Command.eval as) (.eval bs) := ⟨rfl⟩
instance (h h' : Head) : Agrees (Command.head h) (.head h') := ⟨rfl⟩
instance (r r' : Rank) : Agrees (Command.top r) (.top r') := ⟨rfl⟩
instance (r r' : Rank) : Agrees (Command.rare r) (.rare r') := ⟨rfl⟩
instance (method : ExtractionMethod) (source source' : String) (pattern pattern' : Option String)
    (new new' : List String) : Agrees (Command.extract ⟨method, source, pattern, new⟩)
      (.extract ⟨method, source', pattern', new'⟩) := ⟨rfl⟩
instance (algorithm : Algorithm) (params params' : List Parameter) :
    Agrees (Command.learn algorithm params) (.learn algorithm params') := ⟨rfl⟩

end Shape

variable {α β : Type} [Shape α] [Shape β]

/-- Whether both are issues or values that agree, and what the second leaves is what the first leaves
    with all letters lowered. -/
structure Outcome.Agree (o o' : StageOutcome α) : Prop where
  result : Shape.Agree o.result o'.result
  rest : o'.rest = o.rest.map .lower

namespace Outcome.Agree

variable {issue : Issue} {a : α} {rest : List Lexeme} {raised : List Issue} {o : StageOutcome α}

/-- What agrees with an issue is an issue, at the same place of the lower-case lexemes. -/
theorem exists_error (h : (⟨.error issue, rest, raised⟩ : StageOutcome α).Agree o) :
    ∃ issue' raised', o = ⟨.error issue', rest.map .lower, raised'⟩ := by
  obtain ⟨r, left, raised'⟩ := o
  obtain ⟨result, rfl⟩ := h
  cases result
  exact ⟨_, _, rfl⟩

/-- What agrees with a value is a value of the same shape, behind the same lexemes. -/
theorem exists_ok (h : (⟨.ok a, rest, raised⟩ : StageOutcome α).Agree o) :
    ∃ b raised', o = ⟨.ok b, rest.map .lower, raised'⟩ ∧ Shape.Agree a b := by
  obtain ⟨r, left, raised'⟩ := o
  obtain ⟨result, rfl⟩ := h
  cases result with
  | ok a b agree => exact ⟨b, _, rfl, agree⟩

end Outcome.Agree

namespace Parser

variable {p q : StageParser α} {f g : α → StageParser β}

/-- Whether the second parser does with the lowered lexemes what the first does with the lexemes. -/
def ParallelAt (p q : StageParser α) (ts : List Lexeme) : Prop := (p ts).Agree (q (ts.map .lower))

/-- Whether the second parser does with any lowered lexemes what the first does with the lexemes. -/
class Parallel (p q : StageParser α) : Prop where
  at_ : ∀ ts, ParallelAt p q ts

/-! Single steps. -/

instance {a b : α} [h : Agrees a b] : Parallel (pure a) (pure b) :=
  ⟨fun _ => ⟨.ok a b h.agree, rfl⟩⟩

instance (place place' : Nat) (cause cause' : Cause) :
    Parallel (failAt place cause : StageParser α) (failAt place' cause') :=
  ⟨fun _ => ⟨.error _ _, rfl⟩⟩

instance (cause cause' : Cause) : Parallel (fail cause : StageParser α) (fail cause') :=
  ⟨fun _ => ⟨.error _ _, rfl⟩⟩

instance (issue issue' : Issue) : Parallel (raise issue) (raise issue') :=
  ⟨fun _ => ⟨.ok _ _ trivial, rfl⟩⟩

instance (place place' : Nat) (cause cause' : Cause) :
    Parallel (raiseAt place cause) (raiseAt place' cause') :=
  ⟨fun _ => ⟨.ok _ _ trivial, rfl⟩⟩

instance (n : Nat) : Parallel (skip n) (skip n) :=
  ⟨fun _ => ⟨.ok _ _ trivial, List.map_drop.symm⟩⟩

instance : Parallel skipAll skipAll := ⟨fun _ => ⟨.ok _ _ trivial, rfl⟩⟩

instance : Parallel remaining remaining := ⟨fun _ => ⟨.ok _ _ trivial, rfl⟩⟩

instance : Parallel atEnd atEnd := ⟨fun _ => ⟨.ok _ _ List.isEmpty_map.symm, rfl⟩⟩

instance [h : Parallel p q] : Parallel (attempt p) (attempt q) :=
  ⟨fun ts => ⟨.ok _ _ (h.at_ ts).result, (h.at_ ts).rest⟩⟩

/-! Parsers made of parsers. -/

/-- Outcomes that agree go on to outcomes that agree. -/
theorem agree_bind {o o' : StageOutcome α} (first : o.Agree o')
    (others : ∀ t : Twins α, Parallel (f t.fst) (g t.snd)) : (o.bind f).Agree (o'.bind g) := by
  obtain ⟨issue | a, rest, raised⟩ := o
  · obtain ⟨issue', raised', rfl⟩ := first.exists_error
    exact ⟨.error _ _, rfl⟩
  · obtain ⟨b, raised', rfl, agree⟩ := first.exists_ok
    obtain ⟨result, left⟩ := (others ⟨a, b, agree⟩).at_ rest
    exact ⟨result, left⟩

theorem Parallel.andThen (first : Parallel p q)
    (others : ∀ t : Twins α, Parallel (f t.fst) (g t.snd)) : Parallel (p >>= f) (q >>= g) :=
  ⟨fun ts => agree_bind (first.at_ ts) others⟩

theorem Parallel.bind [first : Parallel p q]
    (others : ∀ t : Twins α, Parallel (f t.fst) (g t.snd)) : Parallel (p >>= f) (q >>= g) :=
  first.andThen others

instance [Parallel p q] [others : ∀ t : Twins α, Parallel (f t.fst) (g t.snd)] :
    Parallel (p >>= f) (q >>= g) :=
  .bind others

/-- Truth values agree only if they are the same. -/
theorem Parallel.bind_bool {p q : StageParser Bool} {f g : Bool → StageParser β} [Parallel p q]
    (others : ∀ b, Parallel (f b) (g b)) : Parallel (p >>= f) (q >>= g) :=
  .bind fun ⟨a, b, same⟩ => by
    cases same
    exact others a

instance {p q : StageParser Bool} {f g : Bool → StageParser β} [Parallel p q]
    [others : ∀ b, Parallel (f b) (g b)] : Parallel (p >>= f) (q >>= g) :=
  .bind_bool others

instance {p q : StageParser Unit} {f g : Unit → StageParser β} [Parallel p q]
    [next : Parallel (f ()) (g ())] :
    Parallel (p >>= f) (q >>= g) :=
  .bind fun _ => next

instance [Parallel p q] : Parallel (discard p : StageParser PUnit) (discard q) :=
  inferInstanceAs (Parallel (p >>= fun _ => pure PUnit.unit) (q >>= fun _ => pure PUnit.unit))

theorem Parallel.ite (c : Prop) [Decidable c] {p' q' : StageParser α} (yes : Parallel p q)
    (no : Parallel p' q') : Parallel (if c then p else p') (if c then q else q') := by
  split <;> assumption

instance (c : Prop) [Decidable c] {p' q' : StageParser α} [yes : Parallel p q] [no : Parallel p' q'] :
    Parallel (if c then p else p') (if c then q else q') :=
  .ite c yes no

/-- Behind a parser that always stops it does not matter what would come. -/
instance (cause cause' : Cause) : Parallel (fail cause >>= f) (fail cause' >>= g) :=
  ⟨fun _ => ⟨.error _ _, rfl⟩⟩

/-! An issue that one of two parsers raises does not bring them apart. -/

instance (priority := low) {q : StageParser β} (place : Nat) (cause : Cause) {f : Unit → StageParser β}
    [h : Parallel (f ()) q] : Parallel (raiseAt place cause >>= f) q :=
  ⟨fun ts => ⟨(h.at_ ts).result, (h.at_ ts).rest⟩⟩

instance (priority := low) {p : StageParser β} (place : Nat) (cause : Cause) {g : Unit → StageParser β}
    [h : Parallel p (g ())] : Parallel p (raiseAt place cause >>= g) :=
  ⟨fun ts => ⟨(h.at_ ts).result, (h.at_ ts).rest⟩⟩

/-- A parser that looks ahead has to look at lexemes regardless of their letter case. -/
theorem Parallel.of_lexemes {f g : List Lexeme → StageParser β}
    (behind : ∀ ts, Parallel (f ts) (g (ts.map .lower))) :
    Parallel (lexemes >>= f) (lexemes >>= g) where
  at_ ts := (behind ts).at_ ts

theorem Parallel.of_peek {f g : Option Lexeme → StageParser β} (empty : Parallel (f none) (g none))
    (some : ∀ l, Parallel (f (some l)) (g (some l.lower))) :
    Parallel (peek >>= f) (peek >>= g) where
  at_ ts := by
    cases ts with
    | nil => exact empty.at_ []
    | cons l ts => exact (some l).at_ (l :: ts)

/-- Nor do two parsers come apart by it where only one of them is asked to raise one. -/
instance (priority := low) (c d : Prop) [Decidable c] [Decidable d] (place place' : Nat)
    (cause cause' : Cause) {f g : Unit → StageParser β} [Parallel (f ()) (g ())] :
    Parallel (if c then raiseAt place cause >>= f else f ())
      (if d then raiseAt place' cause' >>= g else g ()) := by
  split <;> split <;> infer_instance

/-! Loops and recursion. -/

/-- Loops are parallel if their steps are, from any pair of values that agree. -/
theorem Parallel.iterate {step step' : α → StageParser (Option α)} {a b : α}
    (steps : ∀ t : Twins α, Parallel (step t.fst) (step' t.snd)) (start : Agrees a b) :
    Parallel (iterate step a) (iterate step' b) where
  at_ ts := by
    have agree := start.agree
    have here : (step a ts).Agree (step' b (ts.map .lower)) := (steps ⟨a, b, agree⟩).at_ ts
    unfold ParallelAt
    clear start
    fun_induction Parser.iterate step a ts generalizing b with
    | case1 a ts issue rest raised given =>
      rw [given] at here
      obtain ⟨issue', raised', same⟩ := here.exists_error
      rw [iterate_of_error same]
      exact ⟨.error _ _, rfl⟩
    | case2 a ts rest raised given =>
      rw [given] at here
      obtain ⟨_ | b', raised', same, ⟨⟩⟩ := here.exists_ok
      rw [iterate_of_none same]
      exact ⟨.ok _ _ agree, rfl⟩
    | case4 a ts a' rest raised given stuck =>
      rw [given] at here
      obtain ⟨_ | b', raised', same, ⟨agree⟩⟩ := here.exists_ok
      rw [Parser.iterate, same]
      simp only [Input.ahead_list, List.length_map] at stuck ⊢
      rw [if_neg stuck]
      exact ⟨.ok _ _ agree, rfl⟩
    | case3 a ts a' rest raised given shorter ih =>
      rw [given] at here
      obtain ⟨_ | b', raised', same, ⟨agree⟩⟩ := here.exists_ok
      rw [iterate_of_some same (by simpa using shorter)]
      obtain ⟨result, left⟩ := ih agree ((steps ⟨a', b', agree⟩).at_ rest)
      exact ⟨result, left⟩

instance {step step' : α → StageParser (Option α)}
    [steps : ∀ t : Twins α, Parallel (step t.fst) (step' t.snd)] (a b : α) [start : Agrees a b] :
    Parallel (iterate step a) (iterate step' b) :=
  .iterate steps start

/-- A parser that refers to itself runs in parallel if it does with any such parser in its own
    place. -/
theorem parallel_fix {f : StageParser α → StageParser α}
    (step : ∀ p, Parallel p p → Parallel (f p) (f p)) :
    Parallel (fix f) (fix f) := by
  let below (n : Nat) : StageParser α := fun ts =>
    if ts.length < n then fix f ts else fail (.expected .expression) ts
  have run (ts : List Lexeme) : fix f ts = f (below ts.length) ts := fix_run ts f
  have knot (n : Nat) : Parallel (below n) (below n) := by
    induction n using Nat.strongRecOn with
    | ind n ih =>
      constructor
      intro ts
      by_cases shorter : ts.length < n
      · have here := (step _ (ih ts.length shorter)).at_ ts
        unfold ParallelAt at here ⊢
        simp only [below, List.length_map, if_pos shorter]
        rw [run, run, List.length_map]
        exact here
      · unfold ParallelAt
        simp only [below, List.length_map, if_neg shorter]
        exact ⟨.error _ _, rfl⟩
  constructor
  intro ts
  have here := (step _ (knot ts.length)).at_ ts
  unfold ParallelAt at here ⊢
  rw [run, run, List.length_map]
  exact here

/-! Single lexemes and lists. -/

@[simp] theorem firstKind_map_lower (ts : List Lexeme) :
    firstKind (ts.map .lower) = firstKind ts := by
  cases ts <;> simp

@[simp] theorem secondKind_map_lower (ts : List Lexeme) :
    secondKind (ts.map .lower) = secondKind ts := by
  cases ts <;> simp

instance (kind : TokenKind) : Parallel (check kind) (check kind) :=
  ⟨fun ts => ⟨.ok _ _ (by simp [Shape.Agree]), rfl⟩⟩

instance (kind : TokenKind) : Parallel (eat kind) (eat kind) := by
  unfold eat
  infer_instance

instance (kind : TokenKind) : Parallel (expect kind) (expect kind) := by
  unfold expect
  infer_instance

instance (m : Mark) : Parallel (eatMark m) (eatMark m) := inferInstanceAs (Parallel (eat _) (eat _))
instance (k : Keyword) : Parallel (eatKeyword k) (eatKeyword k) :=
  inferInstanceAs (Parallel (eat _) (eat _))
instance (m : Mark) : Parallel (expectMark m) (expectMark m) :=
  inferInstanceAs (Parallel (expect _) (expect _))
instance (k : Keyword) : Parallel (expectKeyword k) (expectKeyword k) :=
  inferInstanceAs (Parallel (expect _) (expect _))

instance (k : Keyword) : Parallel (atOption k) (atOption k) :=
  ⟨fun ts => ⟨.ok _ _ (by simp [Shape.Agree, startsOption]), rfl⟩⟩

@[simp] theorem startsAssignment_map_lower (ts : List Lexeme) :
    startsAssignment (ts.map .lower) = startsAssignment ts := by
  simp [startsAssignment]

instance : Parallel atAssignment atAssignment :=
  ⟨fun ts => ⟨.ok _ _ (startsAssignment_map_lower ts).symm, rfl⟩⟩

section Items

variable {item item' : α → StageParser α} [items : ∀ t : Twins α, Parallel (item t.fst) (item' t.snd)]
  (a b : α) [agrees : Agrees a b]

instance : Parallel (behindCommas item a) (behindCommas item' b) := by
  unfold behindCommas
  infer_instance

instance : Parallel (separated item a) (separated item' b) := by
  have := items ⟨a, b, agrees.agree⟩
  unfold separated
  infer_instance

end Items

instance [Parallel p q] : Parallel (list p) (list q) := by
  unfold list
  infer_instance

instance [Parallel p q] : Parallel (lenientList p) (lenientList q) := by
  refine .bind fun first => ?_
  refine .andThen (.iterate (fun items => ?_) ⟨trivial⟩) fun items => inferInstance
  refine .bind_bool fun comma => .ite _ (.bind fun ⟨r, r', agree⟩ => ?_) inferInstance
  cases agree <;> infer_instance

end Parser

end PipedQuery
