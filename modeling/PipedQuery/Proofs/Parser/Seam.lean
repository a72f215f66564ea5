import PipedQuery.Grammar.Stage
import PipedQuery.Proofs.Parser.Forward
import PipedQuery.Proofs.Scan.Lexemes

/-!
# Parsers that read alike up to a seam

What a parser makes of some lexemes may depend on what stands behind them: a list goes on behind a
comma, a name behind a dot.  `Transfers inside us us' p q` says that it does not matter whether `us`
or `us'` stands there.  What `p` reads of lexemes in front of `us`, leaving `us`, that `q` reads of
them in front of `us'`, leaving `us'` and raising the same issues.

Both have to be a seam (`IsSeam`), at which every sum ends.  A parser between parentheses stops at a
comma of its own that it finds there, so it does not transfer as a whole.  But it never gets there,
because the closing parenthesis is still to come among the lexemes.  For such a parser `inside` asks
nothing where none of the lexemes is left.

A name could go on behind the seam only if a dot ended the lexemes, so that is excluded.

There are two parsers and not one, because a parser that refers to itself (`Parser.fix`) is another
one for every number of lexemes.
-/

namespace PipedQuery

/-! Seams. -/

/-- Whether the lexemes are none, or start with what no sum goes on with: a comma, a closing
    parenthesis, the word `in` or a clause on the sources of a search. -/
class IsSeam (us : List Lexeme) : Prop where
  starts : us = [] ∨ firstKind us = some (.mark .comma) ∨ firstKind us = some (.mark .rParen) ∨
    firstKind us = some (.keyword .in_) ∨ Parser.startsSourceClause us = true

instance : IsSeam [] := ⟨.inl rfl⟩
instance (us : List Lexeme) : IsSeam (.mark .comma :: us) := ⟨.inr (.inl rfl)⟩
instance (us : List Lexeme) : IsSeam (.mark .rParen :: us) := ⟨.inr (.inr (.inl rfl))⟩

/-- Whether a lexeme of the kind starts no seam. -/
class TokenKind.IsApart (kind : TokenKind) : Prop where
  apart : kind ≠ .mark .comma ∧ kind ≠ .mark .rParen ∧ kind ≠ .keyword .in_ ∧
    kind ≠ .keyword .source ∧ kind ≠ .keyword .index

namespace TokenKind

instance : IsApart (.mark .dot) := ⟨by decide⟩
instance : IsApart (.mark .plus) := ⟨by decide⟩
instance : IsApart (.mark .minus) := ⟨by decide⟩
instance : IsApart (.keyword .and_) := ⟨by decide⟩
instance : IsApart (.keyword .or_) := ⟨by decide⟩
instance : IsApart (.keyword .xor_) := ⟨by decide⟩
instance : IsApart (.keyword .not_) := ⟨by decide⟩

end TokenKind

section Seams

variable (us : List Lexeme) [seam : IsSeam us]

theorem Parser.exists_of_startsSourceClause {us : List Lexeme}
    (starts : startsSourceClause us = true) : ∃ word sign more, us = word :: sign :: more ∧
      (word.kind = .keyword .source ∨ word.kind = .keyword .index) ∧ sign.kind = .mark .equal := by
  match us with
  | [] => cases starts
  | [word] => simp [startsSourceClause, startsOption] at starts
  | word :: sign :: more =>
    refine ⟨word, sign, more, rfl, ?_⟩
    simp only [startsSourceClause, startsOption, firstKind_cons, secondKind_cons,
      Option.some.injEq, Bool.or_eq_true, Bool.and_eq_true, decide_eq_true_eq] at starts
    exact ⟨starts.imp And.left And.left, starts.elim And.right And.right⟩

/-- What a seam can be, as far as the grammar looks at it. -/
theorem IsSeam.cases_ : us = [] ∨ ∃ l more, us = l :: more ∧
    (l.kind = .mark .comma ∨ l.kind = .mark .rParen ∨ l.kind = .keyword .in_ ∨
      (l.kind = .keyword .source ∧ firstKind more = some (.mark .equal)) ∨
      (l.kind = .keyword .index ∧ firstKind more = some (.mark .equal))) := by
  cases us with
  | nil => exact .inl rfl
  | cons l more =>
    refine .inr ⟨l, more, rfl, ?_⟩
    obtain none | comma | paren | word | clause := seam.starts
    · cases none
    · exact .inl (by simpa using comma)
    · exact .inr (.inl (by simpa using paren))
    · exact .inr (.inr (.inl (by simpa using word)))
    · obtain ⟨_, sign, _, ⟨⟩, source | index, equal⟩ := Parser.exists_of_startsSourceClause clause
      · exact .inr (.inr (.inr (.inl ⟨source, congrArg some equal⟩)))
      · exact .inr (.inr (.inr (.inr ⟨index, congrArg some equal⟩)))

theorem firstKind_seam_ne (kind : TokenKind) [apart : kind.IsApart] : firstKind us ≠ some kind := by
  obtain ⟨noComma, noParen, noIn, noSource, noIndex⟩ := apart.apart
  obtain rfl | ⟨l, more, rfl, comma | paren | word | ⟨source, -⟩ | ⟨index, -⟩⟩ := IsSeam.cases_ us
  · simp
  · simpa [comma] using noComma.symm
  · simpa [paren] using noParen.symm
  · simpa [word] using noIn.symm
  · simpa [source] using noSource.symm
  · simpa [index] using noIndex.symm

end Seams

/-- Whether a parser that looks for the kind does not find it at the seam, or does not get there. -/
class Passes (inside : Bool) (us : List Lexeme) (kind : TokenKind) : Prop where
  other : inside = false → firstKind us ≠ some kind

instance (us : List Lexeme) (kind : TokenKind) : Passes true us kind := ⟨nofun⟩

instance (inside : Bool) (us : List Lexeme) [IsSeam us] (kind : TokenKind) [kind.IsApart] :
    Passes inside us kind := ⟨fun _ => firstKind_seam_ne us kind⟩

instance (inside : Bool) (kind : TokenKind) : Passes inside [] kind := ⟨fun _ => nofun⟩

instance (inside : Bool) (m : Mark) (us : List Lexeme) (k : Keyword) :
    Passes inside (.mark m :: us) (.keyword k) := ⟨fun _ => nofun⟩

/-! Dots. -/

/-- Whether the last of the lexemes is a dot. -/
def EndsInDot (ts : List Lexeme) : Prop := ∃ l ∈ ts.getLast?, l.kind = .mark .dot

theorem not_endsInDot_nil : ¬EndsInDot [] := by
  rintro ⟨l, found, -⟩
  cases found

/-- Whether lexemes end in a dot is told from their last part. -/
theorem endsInDot_append {ts us : List Lexeme} (some : us ≠ []) :
    EndsInDot (ts ++ us) ↔ EndsInDot us := by
  cases found : us.getLast? with
  | none => exact absurd (List.getLast?_eq_none_iff.mp found) some
  | some l => rw [EndsInDot, EndsInDot, List.getLast?_append, found, Option.some_or]

/-- What ends in a dot at its end ends in a dot. -/
theorem EndsInDot.of_suffix {ts us : List Lexeme} (dot : EndsInDot us) (suffix : us <:+ ts) :
    EndsInDot ts := by
  obtain ⟨before, rfl⟩ := suffix
  refine (endsInDot_append ?_).mpr dot
  rintro rfl
  exact not_endsInDot_nil dot

namespace Parser

variable {α β : Type} {inside : Bool} {us us' ts : List Lexeme} {l : Lexeme} {p q : StageParser α}
  {f g : α → StageParser β}

/-- What `p` reads of the lexemes in front of `us`, `q` reads of them in front of `us'`. -/
def TransfersAt (inside : Bool) (us us' : List Lexeme) (p q : StageParser α) (ts : List Lexeme) :
    Prop :=
  ¬EndsInDot ts → ∀ a rest raised, p (ts ++ us) = ⟨.ok a, rest ++ us, raised⟩ →
    (inside = true → rest ≠ []) →
    ∃ raised', q (ts ++ us') = ⟨.ok a, rest ++ us', raised'⟩ ∧
      raised'.map Issue.cause = raised.map Issue.cause

/-- Whatever `p` reads in front of `us`, `q` reads in front of `us'`. -/
class Transfers (inside : Bool) (us us' : List Lexeme) (p q : StageParser α) : Prop where
  advances : Advances p := by infer_instance
  at_ : ∀ ts, TransfersAt inside us us' p q ts

/-- What reads all of the lexemes without an issue, does so in front of another seam. -/
theorem Transfers.run [h : Transfers false us us' p q] {a : α} (plain : ¬EndsInDot ts)
    (found : p (ts ++ us) = ⟨.ok a, us, []⟩) : q (ts ++ us') = ⟨.ok a, us', []⟩ := by
  obtain ⟨raised, run, same⟩ := h.at_ ts plain a [] [] found nofun
  rwa [List.map_eq_nil_iff.mp same] at run

/-! Where nothing is to be shown. -/

/-- What gives no value is transferred. -/
theorem transfersAt_of_error (stops : ∀ a, (p (ts ++ us)).result ≠ .ok a) :
    TransfersAt inside us us' p q ts := by
  intro _ a rest raised found
  exact absurd (congrArg Outcome.result found) (stops a)

/-- At the seam itself there is nothing to show for a parser that does not get there. -/
theorem Transfers.of_cases [forward : Advances p]
    (empty : inside = false → TransfersAt inside us us' p q [])
    (some : ∀ l ts, TransfersAt inside us us' p q (l :: ts)) : Transfers inside us us' p q where
  at_ ts := by
    cases ts with
    | cons l ts => exact some l ts
    | nil =>
      cases inside with
      | false => exact empty rfl
      | true =>
        intro _ a rest raised found left
        have suffix := forward.rest_suffix ([] ++ us)
        rw [found] at suffix
        have none := suffix.length_le
        rw [List.length_append, List.nil_append] at none
        exact absurd (List.eq_nil_of_length_eq_zero (by omega)) (left rfl)

/-- At the seam itself there is nothing to show for a parser that reads something. -/
theorem Transfers.of_consumes (consumes : Consumes p)
    (some : ∀ l ts, TransfersAt inside us us' p q (l :: ts)) : Transfers inside us us' p q where
  advances := consumes.advances
  at_ ts := by
    cases ts with
    | cons l ts => exact some l ts
    | nil =>
      intro _ a rest raised found _
      have shorter := consumes.shorter ([] ++ us) a (by rw [found]) trivial
      rw [found, List.length_append, List.nil_append] at shorter
      omega

/-! Single steps. -/

/-- Two runs that leave the same in front of either seam, with the same causes, are a transfer. -/
theorem transfersAt_of_run {a : α} (rest : List Lexeme) {raised raised' : List Issue}
    (here : p (ts ++ us) = ⟨.ok a, rest ++ us, raised⟩)
    (there : q (ts ++ us') = ⟨.ok a, rest ++ us', raised'⟩)
    (same : raised'.map Issue.cause = raised.map Issue.cause) :
    TransfersAt inside us us' p q ts := by
  intro _ b rest' raised'' found _
  rw [here] at found
  cases congrArg Outcome.result found
  cases congrArg Outcome.raised found
  obtain rfl : rest = rest' := List.append_cancel_right (congrArg Outcome.rest found)
  exact ⟨raised', there, same⟩

instance (a : α) : Transfers inside us us' (pure a) (pure a) :=
  { at_ ts := transfersAt_of_run ts rfl rfl rfl }

instance (place place' : Nat) (cause cause' : Cause) :
    Transfers inside us us' (failAt place cause : StageParser α) (failAt place' cause') where
  at_ _ := transfersAt_of_error nofun

instance (cause cause' : Cause) :
    Transfers inside us us' (fail cause : StageParser α) (fail cause') where
  at_ _ := transfersAt_of_error nofun

/-- Only the place of an issue depends on what is behind the seam. -/
instance (place place' : Nat) (cause : Cause) :
    Transfers inside us us' (raiseAt place cause) (raiseAt place' cause) :=
  { at_ ts := transfersAt_of_run ts rfl rfl rfl }

/-! Parsers made of parsers. -/

/-- What is left between two parsers ends with the seam if what is left behind both does. -/
theorem exists_of_suffix {between rest : List Lexeme} (start : between <:+ ts ++ us)
    (later : rest ++ us <:+ between) : ∃ more, between = more ++ us ∧ more <:+ ts ∧ rest <:+ more := by
  obtain ⟨before, rfl⟩ := later
  rw [← List.append_assoc] at start
  exact ⟨before ++ rest, (List.append_assoc ..).symm, List.suffix_append_self_iff.mp start,
    List.suffix_append before rest⟩

/-- Two parsers one after the other.  The first one may be one that does not get to the seam, if the
    second one does not get there either or reads something. -/
theorem TransfersAt.bind_of {other : Bool} [Advances p] (first : TransfersAt other us us' p q ts)
    (others : ∀ a, Transfers inside us us' (f a) (g a))
    (left : other = true → inside = true ∨ ∀ a, Consumes (f a)) :
    TransfersAt inside us us' (p >>= f) (q >>= g) ts := by
  have forward (a : α) := (others a).advances
  intro plain b rest raised found inner
  rw [bind_run] at found ⊢
  generalize here : p (ts ++ us) = o at found
  obtain ⟨issue | a, between, before⟩ := o
  · cases found
  rw [Outcome.bind_ok] at found
  generalize next : f a between = o at found
  obtain ⟨result, behind, after⟩ := o
  cases found
  obtain ⟨more, rfl, start, later⟩ := exists_of_suffix (suffix_of_run here) (suffix_of_run next)
  have filled (within : other = true) : more ≠ [] := by
    rintro rfl
    rcases left within with within | consumes
    · exact inner within (List.suffix_nil.mp later)
    · have shorter := (consumes a).lt_of_run next
      rw [List.append_eq, List.length_append, List.length_append, List.length_nil] at shorter
      omega
  obtain ⟨before', here', same⟩ := first plain a more before here filled
  obtain ⟨after', next', same'⟩ :=
    (others a).at_ more (fun dot => plain (dot.of_suffix start)) b rest after next inner
  refine ⟨before' ++ after', ?_, ?_⟩
  · rw [here', Outcome.bind_ok, next', Outcome.after_mk]
  · rw [List.map_append, List.map_append, same, same']

/-- One parser behind another one, at some lexemes. -/
theorem TransfersAt.bind [Advances p] (first : TransfersAt inside us us' p q ts)
    (others : ∀ a, Transfers inside us us' (f a) (g a)) :
    TransfersAt inside us us' (p >>= f) (q >>= g) ts :=
  first.bind_of others .inl

/-- One parser behind another one. -/
theorem Transfers.bind [first : Transfers inside us us' p q]
    (others : ∀ a, Transfers inside us us' (f a) (g a)) :
    Transfers inside us us' (p >>= f) (q >>= g) :=
  have := first.advances
  { advances := .bind fun a => (others a).advances
    at_ ts := (first.at_ ts).bind others }

/-- Behind a parser that does not get to the seam stands one that reads something. -/
theorem Transfers.bracket [first : Transfers true us us' p q] (consumes : ∀ a, Consumes (f a))
    (others : ∀ a, Transfers inside us us' (f a) (g a)) :
    Transfers inside us us' (p >>= f) (q >>= g) :=
  have := first.advances
  { advances := .bind fun a => (others a).advances
    at_ ts := (first.at_ ts).bind_of others fun _ => .inr consumes }

instance [Transfers inside us us' p q] [others : ∀ a, Transfers inside us us' (f a) (g a)] :
    Transfers inside us us' (p >>= f) (q >>= g) :=
  .bind others

instance (c : Prop) [Decidable c] {p' q' : StageParser α} [Transfers inside us us' p q]
    [Transfers inside us us' p' q'] :
    Transfers inside us us' (if c then p else p') (if c then q else q') := by
  split <;> assumption

/-- Places are only told where something is wrong. -/
theorem transfersAt_remaining {f g : Nat → StageParser β}
    (places : ∀ m n, TransfersAt inside us us' (f m) (g n) ts) :
    TransfersAt inside us us' (remaining >>= f) (remaining >>= g) ts :=
  places (ts ++ us).length (ts ++ us').length

/-- Behind a look at what is left it matters what the look tells of the seam. -/
theorem Transfers.of_lexemes {f g : List Lexeme → StageParser β} (forward : ∀ ts, Advances (f ts))
    (behind : ∀ ts, TransfersAt inside us us' (f (ts ++ us)) (g (ts ++ us')) ts) :
    Transfers inside us us' (lexemes >>= f) (lexemes >>= g) where
  at_ := behind

theorem transfersAt_lexemes {f g : List Lexeme → StageParser β}
    (behind : TransfersAt inside us us' (f (l :: (ts ++ us))) (g (l :: (ts ++ us'))) (l :: ts)) :
    TransfersAt inside us us' (lexemes >>= f) (lexemes >>= g) (l :: ts) :=
  behind

theorem transfersAt_peek {f g : Option Lexeme → StageParser β}
    (some : TransfersAt inside us us' (f (some l)) (g (some l)) (l :: ts)) :
    TransfersAt inside us us' (peek >>= f) (peek >>= g) (l :: ts) :=
  some

/-- Passing over one of the lexemes. -/
theorem transfersAt_skip {f g : Unit → StageParser β} (next : Transfers inside us us' (f ()) (g ())) :
    TransfersAt inside us us' (skip 1 >>= f) (skip 1 >>= g) (l :: ts) := fun plain =>
  next.at_ ts fun dot => plain (dot.of_suffix (List.suffix_cons l ts))

/-! Loops and recursion. -/

instance {step step' : α → StageParser (Option α)}
    [steps : ∀ a, Transfers inside us us' (step a) (step' a)] (a : α) :
    Transfers inside us us' (iterate step a) (iterate step' a) where
  advances :=
    have (a : α) := (steps a).advances
    inferInstance
  at_ ts := by
    have (a : α) := (steps a).advances
    intro plain b rest raised found inner
    generalize whole : ts ++ us = ws at found
    fun_induction iterate step a ws generalizing ts raised with
    | case1 => cases found
    | case2 a ws rest' raised' given =>
      subst whole
      cases found
      obtain ⟨raised', run, same⟩ := (steps _).at_ ts plain none rest _ given inner
      exact ⟨raised', iterate_of_none run, same⟩
    | case4 a ws a' rest' raised' given stuck =>
      subst whole
      cases found
      obtain ⟨raised', run, same⟩ := (steps a).at_ ts plain (some b) rest _ given inner
      refine ⟨raised', ?_, same⟩
      rw [iterate, run]
      simp only [Input.ahead_list, List.length_append, Nat.add_lt_add_iff_right] at stuck ⊢
      rw [if_neg stuck]
    | case3 a ws a' between before given shorter ih =>
      subst whole
      generalize next : iterate step a' between = o at found ih
      obtain ⟨result, behind, after⟩ := o
      cases found
      obtain ⟨more, rfl, start, later⟩ := exists_of_suffix (suffix_of_run given) (suffix_of_run next)
      have plain' : ¬EndsInDot more := fun dot => plain (dot.of_suffix start)
      have filled (within : inside = true) : more ≠ [] := by
        rintro rfl
        exact inner within (List.suffix_nil.mp later)
      obtain ⟨before', run, same⟩ := (steps a).at_ ts plain (some a') more before given filled
      obtain ⟨after', run', same'⟩ := ih more plain' after rfl rfl
      refine ⟨before' ++ after', ?_, ?_⟩
      · rw [iterate_of_some run (by simpa using shorter), run', Outcome.after_mk]
      · rw [List.map_append, List.map_append, same, same']

/-- A parser that refers to itself and does not get to the seam is transferred if it is with any such
    parsers in its own place. -/
theorem transfers_fix {f : StageParser α → StageParser α} [forward : Advances (fix f)]
    (step : ∀ p q, Transfers true us us' p q → Transfers true us us' (f p) (f q)) :
    Transfers true us us' (fix f) (fix f) := by
  let below (n : Nat) : StageParser α := fun ts =>
    if ts.length < n then fix f ts else fail (.expected .expression) ts
  have run (ts : List Lexeme) : fix f ts = f (below ts.length) ts := fix_run ts f
  have advances (n : Nat) : Advances (below n) := by
    constructor
    intro ts
    by_cases shorter : ts.length < n
    · simp only [below, if_pos shorter]
      exact forward.rest_suffix ts
    · simp only [below, if_neg shorter]
      exact List.suffix_refl ts
  -- Either seam adds to the lexemes that are left, and by as many to those that there may be.
  have knot (n : Nat) : Transfers true us us' (below (n + us.length)) (below (n + us'.length)) := by
    induction n using Nat.strongRecOn with
    | ind n ih =>
      refine { advances := advances _, at_ := fun ts plain a rest raised found inner => ?_ }
      by_cases shorter : ts.length < n
      · have longer (us : List Lexeme) : (ts ++ us).length < n + us.length := by simpa using shorter
        simp only [below, if_pos (longer us), if_pos (longer us')] at found ⊢
        rw [run, List.length_append] at found ⊢
        exact (step _ _ (ih ts.length shorter)).at_ ts plain a rest raised found inner
      · have no : ¬(ts ++ us).length < n + us.length := by simpa using shorter
        simp only [below, if_neg no] at found
        cases found
  refine { at_ := fun ts plain a rest raised found inner => ?_ }
  rw [run, List.length_append] at found ⊢
  exact (step _ _ (knot ts.length)).at_ ts plain a rest raised found inner

/-! Single lexemes and lists. -/

section Lexemes

variable (kind : TokenKind) [here : Passes inside us kind] [there : Passes inside us' kind]

instance : Transfers inside us us' (check kind) (check kind) := by
  refine .of_cases (fun outside => ?_) fun l ts => transfersAt_of_run (l :: ts) rfl rfl rfl
  have none (us : List Lexeme) (other : firstKind us ≠ some kind) :
      check kind ([] ++ us) = ⟨.ok false, [] ++ us, []⟩ := by
    rw [check_run, List.nil_append, decide_eq_false other]
  exact transfersAt_of_run [] (none us (here.other outside)) (none us' (there.other outside)) rfl

instance : Transfers inside us us' (eat kind) (eat kind) := by
  refine .of_cases (fun outside => ?_) fun l ts => ?_
  · exact transfersAt_of_run [] (eat_of_ne (here.other outside))
      (eat_of_ne (there.other outside)) rfl
  · by_cases same : l.kind = kind
    · exact transfersAt_of_run ts (eat_of_eq _ same) (eat_of_eq _ same) rfl
    · have other : firstKind (l :: ts) ≠ some kind := by simpa using same
      exact transfersAt_of_run (l :: ts) (eat_of_ne other) (eat_of_ne other) rfl

instance (m : Mark) [Passes inside us (.mark m)] [Passes inside us' (.mark m)] :
    Transfers inside us us' (eatMark m) (eatMark m) :=
  inferInstanceAs (Transfers inside us us' (eat _) (eat _))
instance (k : Keyword) [Passes inside us (.keyword k)] [Passes inside us' (.keyword k)] :
    Transfers inside us us' (eatKeyword k) (eatKeyword k) :=
  inferInstanceAs (Transfers inside us us' (eat _) (eat _))

end Lexemes

/-- What has to be there is not found at the seam but among the lexemes. -/
instance (kind : TokenKind) : Transfers inside us us' (expect kind) (expect kind) := by
  refine .of_consumes (consumes_expect kind) fun l ts => ?_
  by_cases same : l.kind = kind
  · exact transfersAt_of_run ts (expect_of_eq _ same) (expect_of_eq _ same) rfl
  · have other : firstKind (l :: (ts ++ us)) ≠ some kind := by simpa using same
    refine transfersAt_of_error fun a => ?_
    rw [List.cons_append, expect, bind_run, eat_of_ne other]
    nofun

instance (m : Mark) : Transfers inside us us' (expectMark m) (expectMark m) :=
  inferInstanceAs (Transfers inside us us' (expect _) (expect _))
instance (k : Keyword) : Transfers inside us us' (expectKeyword k) (expectKeyword k) :=
  inferInstanceAs (Transfers inside us us' (expect _) (expect _))

section Lists

variable {item item' : β → StageParser β} [∀ b, Transfers true us us' (item b) (item' b)]

instance (b : β) : Transfers true us us' (behindCommas item b) (behindCommas item' b) := by
  unfold behindCommas
  infer_instance

instance (b : β) : Transfers true us us' (separated item b) (separated item' b) := by
  unfold separated
  infer_instance

instance [Transfers true us us' p q] : Transfers true us us' (list p) (list q) := by
  unfold list
  infer_instance

end Lists

end Parser

end PipedQuery
