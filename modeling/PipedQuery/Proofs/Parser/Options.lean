import PipedQuery.Proofs.Parser.Run

/-!
# Parsers that end in options

Some commands read a head and then one option `name=value` after another.  No mark `=` stands in the
head or in a value (`Equalless`).  So where lexemes that are read without an issue go on with a name
and `=`, or end, there is a place between two options (`BetweenOptions`), and nothing that is read in
front of it depends on what stands behind (`EndsInOptions.exists_split`).

There an option may be put in.  One that is dropped changes nothing but the issues
(`EndsInOptions.dropped`).  Behind one of which something is left, no more options are read
(`EndsInOptions.cut`).
-/

namespace PipedQuery

/-- Whether none of the lexemes is the mark `=`. -/
def Equalless (ls : List Lexeme) : Prop := ∀ l ∈ ls, l.kind ≠ .mark .equal

/-- Whether the lexemes are none, or start with the name of an option. -/
def BetweenOptions (ls : List Lexeme) : Prop := ls = [] ∨ startsAssignment ls = true

section Seams

variable {front rest before after : List Lexeme}

/-- Between options no mark comes next. -/
theorem BetweenOptions.firstKind_ne (between : BetweenOptions after) (m : Mark) :
    firstKind after ≠ some (.mark m) := by
  rcases between with rfl | assigned
  · nofun
  · obtain ⟨name, more, rfl, kind | ⟨k, kind⟩, -⟩ := Parser.exists_of_startsAssignment assigned <;>
      simp [kind]

/-- No option starts among lexemes without a mark `=`. -/
theorem Equalless.not_startsAssignment (equalless : Equalless front) (some : front ≠ [])
    (ends : firstKind rest ≠ .some (.mark .equal)) : startsAssignment (front ++ rest) = false := by
  rw [Bool.eq_false_iff]
  intro assigned
  obtain ⟨name, more, whole, -, equal⟩ := Parser.exists_of_startsAssignment assigned
  match front with
  | [] => exact some rfl
  | [l] =>
    obtain ⟨-, rfl⟩ := List.cons.inj whole
    exact ends equal
  | l :: m :: front =>
    obtain ⟨-, rfl⟩ := List.cons.inj whole
    exact equalless m (by simp) (Option.some.inj equal)

/-- A place between options is not among lexemes without a mark `=`. -/
theorem Equalless.exists_of_append (equalless : Equalless front)
    (whole : front ++ rest = before ++ after) (ends : firstKind rest ≠ some (.mark .equal))
    (between : BetweenOptions after) : ∃ mid, before = front ++ mid ∧ rest = mid ++ after := by
  obtain ⟨mid, rfl, rfl⟩ | ⟨left, rfl, rfl⟩ := List.append_eq_append_iff.mp whole
  · exact ⟨mid, rfl, rfl⟩
  · by_cases none : left = []
    · exact ⟨[], by simp [none], by simp [none]⟩
    · have apart : Equalless left := fun l member => equalless l (List.mem_append_right _ member)
      rcases between with empty | assigned
      · exact absurd (List.append_eq_nil_iff.mp empty).1 none
      · rw [apart.not_startsAssignment none ends] at assigned
        cases assigned

end Seams

namespace Parser

variable {α β σ : Type}

theorem exists_of_firstKind {ts : List Lexeme} {kind : TokenKind} (first : firstKind ts = some kind) :
    ∃ l rest, ts = l :: rest ∧ l.kind = kind := by
  cases ts with
  | nil => cases first
  | cons l rest => exact ⟨l, rest, rfl, Option.some.inj first⟩

/-- An assignment starts with two lexemes. -/
theorem exists_pair_of_startsAssignment {ts : List Lexeme} (assigned : startsAssignment ts = true) :
    ∃ name equal us, ts = name :: equal :: us := by
  match ts with
  | [] => cases assigned
  | [name] => simp [startsAssignment] at assigned
  | name :: equal :: us => exact ⟨name, equal, us, rfl⟩

/-! Parsers whose lexemes can be told from those behind them. -/

/-- Whether what the parser reads without an issue has no mark `=` in it, and is read alike in front of
    all lexemes that may end it. -/
def ReadsApart (ends : List Lexeme → Prop) (p : StageParser α) : Prop :=
  ∀ ts a rest, p ts = ⟨.ok a, rest, []⟩ → ∃ front, ts = front ++ rest ∧ front ≠ [] ∧
    Equalless front ∧ ∀ us, ends us → p (front ++ us) = ⟨.ok a, us, []⟩

/-- Whether the parser reads one lexeme and looks at no other, if it does so without an issue. -/
def ReadsOne (p : StageParser α) : Prop :=
  ∀ ts a rest, p ts = ⟨.ok a, rest, []⟩ → ∃ l, ts = l :: rest ∧ l.kind ≠ .mark .equal ∧
    ∀ us, p (l :: us) = ⟨.ok a, us, []⟩

/-- A parser of a single lexeme reads it apart from all others. -/
theorem ReadsOne.readsApart {p : StageParser α} (one : ReadsOne p) : ReadsApart (fun _ => True) p := by
  intro ts a rest found
  obtain ⟨l, rfl, other, run⟩ := one ts a rest found
  exact ⟨[l], rfl, List.cons_ne_nil _ _, List.forall_mem_singleton.mpr other, fun us _ => run us⟩

/-! Loops. -/

/-- Whether a loop reads apart step by step.  What a step reads it reads alike in front of everything
    that may stand behind a step (`goes`), and the loop stops in front of everything that may end it
    (`ends`). -/
structure StepsApart (goes ends : List Lexeme → Prop) (step : α → StageParser (Option α)) : Prop where
  goes_of_ends : ∀ us, ends us → goes us
  last : ∀ a ts rest, step a ts = ⟨.ok none, rest, []⟩ → rest = ts
  stops : ∀ a us, ends us → step a us = ⟨.ok none, us, []⟩
  next : ∀ a a' ts rest, step a ts = ⟨.ok (some a'), rest, []⟩ →
    ∃ front, ts = front ++ rest ∧ front ≠ [] ∧ Equalless front ∧ (∀ us, goes (front ++ us)) ∧
      ∀ us, goes us → step a (front ++ us) = ⟨.ok (some a'), us, []⟩

/-- A loop without an issue ends at once, or goes on behind a step without an issue. -/
theorem exists_of_iterate {step : α → StageParser (Option α)} {a b : α} {ts rest : List Lexeme}
    (found : iterate step a ts = ⟨.ok b, rest, []⟩) :
    step a ts = ⟨.ok none, rest, []⟩ ∧ a = b ∨
      ∃ a' between, step a ts = ⟨.ok (some a'), between, []⟩ ∧
        (between.length < ts.length → iterate step a' between = ⟨.ok b, rest, []⟩) := by
  rw [iterate] at found
  generalize step a ts = o at found ⊢
  obtain ⟨issue | _ | a', between, raised⟩ := o
  · cases found
  · cases found
    exact .inl ⟨rfl, rfl⟩
  · right
    dsimp only at found
    split at found
    · obtain ⟨none, -⟩ := List.append_eq_nil_iff.mp (congrArg Outcome.raised found)
      subst none
      exact ⟨a', between, rfl, fun _ => found⟩
    · next stuck =>
      cases found
      exact ⟨_, _, rfl, fun shorter => absurd shorter stuck⟩

/-- What a loop reads it reads alike in front of everything that may end it. -/
theorem StepsApart.iterate {goes ends : List Lexeme → Prop} {step : α → StageParser (Option α)}
    (apart : StepsApart goes ends step) {a b : α} {ts rest : List Lexeme}
    (found : iterate step a ts = ⟨.ok b, rest, []⟩) :
    ∃ front, ts = front ++ rest ∧ Equalless front ∧ (∀ us, ends us → goes (front ++ us)) ∧
      ∀ us, ends us → Parser.iterate step a (front ++ us) = ⟨.ok b, us, []⟩ := by
  induction n : ts.length using Nat.strongRecOn generalizing a ts with
  | ind n ih =>
    obtain ⟨last, rfl⟩ | ⟨a', between, next, later⟩ := exists_of_iterate found
    · obtain rfl := apart.last a ts rest last
      refine ⟨[], rfl, List.forall_mem_nil _, apart.goes_of_ends, fun us stop => ?_⟩
      exact iterate_of_none (apart.stops a us stop)
    · obtain ⟨front, rfl, some, equalless, goes, run⟩ := apart.next a a' ts between next
      have shorter (us : List Lexeme) : us.length < (front ++ us).length := by
        have := List.length_pos_iff.mpr some
        rw [List.length_append]
        omega
      obtain ⟨more, rfl, equalless', goes', run'⟩ :=
        ih _ (n ▸ shorter between) (later (shorter between)) rfl
      refine ⟨front ++ more, (List.append_assoc ..).symm,
        List.forall_mem_append.mpr ⟨equalless, equalless'⟩, fun us stop => ?_, fun us stop => ?_⟩
      · rw [List.append_assoc]
        exact goes _
      · rw [List.append_assoc, iterate_of_some (run _ (goes' us stop)) (shorter _), run' us stop]
        rfl

/-! Loops over options. -/

variable {step : σ → StageParser (Option σ)}

/-- Whether the step of a loop reads an option `name=value`, with a value that is read alike in front
    of anything, or ends the loop. -/
structure ReadsOptions (step : σ → StageParser (Option σ)) : Prop where
  last : ∀ s ts rest, step s ts = ⟨.ok none, rest, []⟩ → rest = ts
  next : ∀ s s' ts rest, step s ts = ⟨.ok (some s'), rest, []⟩ →
    ∃ name equal value, ts = name :: equal :: (value ++ rest) ∧
      startsAssignment [name, equal] = true ∧ Equalless value ∧
      ∀ us, step s (name :: equal :: (value ++ us)) = ⟨.ok (some s'), us, []⟩

/-- A step that reads a value behind the name of an option reads an option, if the value is read alike
    in front of anything. -/
theorem exists_of_value {s s' : σ} {name equal : Lexeme} {us rest : List Lexeme} {q : StageParser α}
    {f : α → σ} (apart : ReadsApart (fun _ => True) q)
    (run : ∀ us, step s (name :: equal :: us) = (q us).bind fun a => pure (some (f a)))
    (found : step s (name :: equal :: us) = ⟨.ok (some s'), rest, []⟩) :
    ∃ value, us = value ++ rest ∧ Equalless value ∧
      ∀ vs, step s (name :: equal :: (value ++ vs)) = ⟨.ok (some s'), vs, []⟩ := by
  rw [run] at found
  obtain ⟨a, between, read, given⟩ := Outcome.bind_eq_ok_iff.mp found
  cases given
  obtain ⟨value, rfl, -, equalless, alone⟩ := apart us a rest read
  refine ⟨value, rfl, equalless, fun vs => ?_⟩
  rw [run, alone vs trivial]
  rfl

/-- A place between options is in front of an option, or behind all of it. -/
theorem exists_of_option {name equal : Lexeme} {value rest before after : List Lexeme}
    (assigned : startsAssignment [name, equal] = true) (equalless : Equalless value)
    (whole : before ++ after = name :: equal :: (value ++ rest)) (here : BetweenOptions after)
    (there : BetweenOptions rest) :
    before = [] ∨ ∃ mid, before = name :: equal :: (value ++ mid) ∧ rest = mid ++ after := by
  match before with
  | [] => exact .inl rfl
  | [first] =>
    -- The place is not in front of the mark `=`.
    obtain ⟨_, _, ⟨⟩, -, sign⟩ := exists_of_startsAssignment assigned
    have next : after = equal :: (value ++ rest) := (List.cons.inj whole).2
    exact absurd (next ▸ sign) (here.firstKind_ne .equal)
  | first :: second :: before =>
    simp only [List.cons_append, List.cons.injEq] at whole
    obtain ⟨rfl, rfl, whole⟩ := whole
    obtain ⟨mid, rfl, rfl⟩ := equalless.exists_of_append whole.symm (there.firstKind_ne .equal) here
    exact .inr ⟨mid, rfl, rfl⟩

/-- What a loop over options takes up as a whole starts with an option. -/
theorem ReadsOptions.between (options : ReadsOptions step) {s s' : σ} {ts : List Lexeme}
    (found : iterate step s ts = ⟨.ok s', [], []⟩) : BetweenOptions ts := by
  obtain ⟨last, -⟩ | ⟨s'', rest, next, -⟩ := exists_of_iterate found
  · exact .inl (options.last s ts [] last).symm
  · obtain ⟨name, equal, value, rfl, assigned, -⟩ := options.next s s'' ts rest next
    exact .inr assigned

/-- A loop over options comes by the place between any two of them. -/
theorem ReadsOptions.exists_split (options : ReadsOptions step) {s s' : σ}
    {before after : List Lexeme} (found : iterate step s (before ++ after) = ⟨.ok s', [], []⟩)
    (between : BetweenOptions after) :
    ∃ here, (∀ us, BetweenOptions us → BetweenOptions (before ++ us)) ∧
      ∀ us, iterate step s (before ++ us) = iterate step here us := by
  induction n : before.length using Nat.strongRecOn generalizing s before with
  | ind n ih =>
    obtain ⟨last, -⟩ | ⟨s'', rest, next, later⟩ := exists_of_iterate found
    · obtain ⟨rfl, -⟩ := List.append_eq_nil_iff.mp (options.last s _ [] last).symm
      exact ⟨s, fun us starts => starts, fun us => rfl⟩
    · obtain ⟨name, equal, value, whole, assigned, equalless, run⟩ := options.next s s'' _ rest next
      have shorter (us : List Lexeme) : us.length < (name :: equal :: (value ++ us)).length := by
        simp only [List.length_cons, List.length_append]
        omega
      have found := later (whole ▸ shorter rest)
      obtain rfl | ⟨mid, rfl, rfl⟩ :=
        exists_of_option assigned equalless whole between (options.between found)
      · exact ⟨s, fun us starts => starts, fun us => rfl⟩
      · obtain ⟨here, -, run'⟩ := ih _ (n ▸ shorter mid) found rfl
        refine ⟨here, fun us _ => .inr assigned, fun us => ?_⟩
        rw [List.cons_append, List.cons_append, List.append_assoc,
          iterate_of_some (run _) (shorter _), run']
        rfl

/-! Commands that read a head and then options. -/

/-- Whether the parser reads behind its keyword a head, which has no mark `=` in it, and then options,
    of which it makes its value. -/
structure EndsInOptions (k : Keyword) (p : StageParser β) (step : σ → StageParser (Option σ))
    (make : σ → β) : Prop where
  options : ReadsOptions step
  head : ∀ ts b, firstKind ts = some (.keyword k) → p ts = ⟨.ok b, [], []⟩ →
    ∃ front rest s s', ts = front ++ rest ∧ Equalless front ∧
      iterate step s rest = ⟨.ok s', [], []⟩ ∧
      ∀ us, BetweenOptions us → p (front ++ us) = (iterate step s us).bind fun s => pure (make s)

/-- What such a parser gives is made of its options. -/
theorem EndsInOptions.exists_make {k : Keyword} {p : StageParser β} {make : σ → β}
    (ends : EndsInOptions k p step make) {ts : List Lexeme} {b : β}
    (keyword : firstKind ts = some (.keyword k)) (found : p ts = ⟨.ok b, [], []⟩) :
    ∃ s, b = make s := by
  obtain ⟨front, rest, s, s', rfl, -, options, run⟩ := ends.head ts b keyword found
  rw [run rest (ends.options.between options), options] at found
  cases found
  exact ⟨s', rfl⟩

section Places

variable {k : Keyword} {p : StageParser β} {make : σ → β} {b : β} {before after us rest : List Lexeme}
  {name equal : Lexeme} {issue : Issue} (ends : EndsInOptions k p step make)
  (keyword : firstKind (before ++ after) = some (.keyword k))
  (found : p (before ++ after) = ⟨.ok b, [], []⟩) (between : BetweenOptions after)
include ends keyword found between

/-- At the place between any two options nothing but the options counts that have been read. -/
theorem EndsInOptions.exists_split : ∃ s, ∀ us, BetweenOptions us →
    p (before ++ us) = (iterate step s us).bind fun s => pure (make s) := by
  obtain ⟨front, rest, s, s', whole, equalless, options, run⟩ := ends.head _ b keyword found
  have behind := (ends.options.between options).firstKind_ne .equal
  obtain ⟨mid, rfl, rfl⟩ := equalless.exists_of_append whole.symm behind between
  obtain ⟨here, starts, run'⟩ := ends.options.exists_split options between
  refine ⟨here, fun us stop => ?_⟩
  rw [List.append_assoc, run _ (starts us stop), run']

variable (assigned : startsAssignment [name, equal] = true)
include assigned

/-- An option that is dropped changes nothing but the issues. -/
theorem EndsInOptions.dropped {value : List Lexeme}
    (drops : ∀ s, step s (name :: equal :: (value ++ after)) = ⟨.ok (some s), after, [issue]⟩) :
    p (before ++ name :: equal :: (value ++ after)) = ⟨.ok b, [], [issue]⟩ := by
  obtain ⟨s, run⟩ := ends.exists_split keyword found between
  have shorter : after.length < (name :: equal :: (value ++ after)).length := by
    simp only [List.length_cons, List.length_append]
    omega
  rw [run _ between] at found
  obtain ⟨s', rest, options, made⟩ := Outcome.bind_eq_ok_iff.mp found
  cases made
  rw [run (name :: equal :: (value ++ after)) (.inr assigned), iterate_of_some (drops s) shorter,
    options]
  rfl

/-- If something is left of an option, the options behind it are not read. -/
theorem EndsInOptions.cut (last : ∀ s, step s [] = ⟨.ok none, [], []⟩)
    (cuts : ∀ s, step s (name :: equal :: us) = ⟨.ok (some s), rest, [issue]⟩)
    (shorter : rest.length ≤ us.length) (stops : ∀ s, step s rest = ⟨.ok none, rest, []⟩) :
    ∃ s, p before = ⟨.ok (make s), [], []⟩ ∧
      p (before ++ name :: equal :: us) = ⟨.ok (make s), rest, [issue]⟩ := by
  obtain ⟨s, run⟩ := ends.exists_split keyword found between
  refine ⟨s, ?_, ?_⟩
  · have here := run [] (.inl rfl)
    rwa [List.append_nil, iterate_of_none (last s)] at here
  · have shorter : rest.length < (name :: equal :: us).length := by
      simp only [List.length_cons]
      omega
    rw [run (name :: equal :: us) (.inr assigned), iterate_of_some (cuts s) shorter,
      iterate_of_none (stops s)]
    rfl

end Places

end Parser

end PipedQuery
