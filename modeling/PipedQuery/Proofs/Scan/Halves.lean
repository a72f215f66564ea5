import PipedQuery.Proofs.Scan.Alone
import PipedQuery.Proofs.Scan.Munch

/-!
# Texts in two halves

A quotation that is left open in one half of a text may be closed in the other one, so the first
half of a text without lexical problems may have one itself.  It has none if the second half has
none either (`Scan.Reads.front`).

For that a text is read once more, one character at a time (`Quoting.run`).  A text without lexical
problems leads from the outside of quotations to the outside.  From two different places it does not
lead to the same one (`Quoting.Apart.run`), so what leads from the outside to the outside does not
lead there from within a quotation.
-/

namespace PipedQuery

namespace Quote

theorem ofChar?_char (q : Quote) : ofChar? q.char = some q := by
  cases q <;> rfl

theorem char_injective : Function.Injective char := by
  intro q q' same
  have found := ofChar?_char q
  rw [same, ofChar?_char] at found
  exact (Option.some.inj found).symm

end Quote

/-- Whether the character neither starts a quotation nor escapes anything. -/
def isPlain (c : Char) : Bool := c != '\\' && (Quote.ofChar? c).isNone

section Plain

variable {c : Char}

/-- What is not plain is a backslash or a quote. -/
theorem not_isPlain_iff : ¬isPlain c = true ↔ c = '\\' ∨ ∃ q : Quote, c = q.char := by
  cases found : Quote.ofChar? c with
  | none =>
    have plain (q : Quote) : c ≠ q.char := by
      rintro rfl
      rw [Quote.ofChar?_char] at found
      cases found
    simp [isPlain, found, plain]
  | some q =>
    have quote : ∃ q : Quote, c = q.char := ⟨q, Scan.char_of_ofChar? found⟩
    simp [isPlain, found, quote]

theorem ne_of_isPlain (plain : isPlain c = true) : c ≠ '\\' ∧ ∀ q : Quote, c ≠ q.char := by
  refine ⟨fun escape => ?_, fun q quote => ?_⟩
  · exact not_isPlain_iff.mpr (.inl escape) plain
  · exact not_isPlain_iff.mpr (.inr ⟨q, quote⟩) plain

/-- A class without the four other characters consists of plain ones. -/
theorem isPlain_of_class {p : Char → Bool} (member : p c = true)
    (none : ['\\', '"', '\'', '`'].all (fun d => !p d) = true) : isPlain c = true := by
  by_contra other
  have special : c ∈ ['\\', '"', '\'', '`'] := by
    rcases not_isPlain_iff.mp other with rfl | ⟨q, rfl⟩
    · exact List.mem_cons_self
    · cases q <;> decide
  have outside := List.all_eq_true.mp none c special
  rw [member] at outside
  cases outside

end Plain

/-- Where a text has got to that is read one character at a time.  A backslash outside of quotations
    is no lexeme, so the text is astray behind one. -/
inductive Quoting where
  | outside
  | inside (q : Quote) (escaped : Bool)
  | astray

namespace Quoting

/-- The place behind one more character. -/
def next : Quoting → Char → Quoting
  | outside, c =>
    match Quote.ofChar? c with
    | some q => inside q false
    | none => if c = '\\' then astray else outside
  | inside q true, _ => inside q false
  | inside q false, c =>
    if c = '\\' then inside q true
    else if c = q.char then outside
    else inside q false
  | astray, _ => astray

/-- The place behind a text. -/
def run (s : Quoting) (cs : List Char) : Quoting := cs.foldl next s

variable {s s' : Quoting} {c : Char} {cs rest : List Char} {q : Quote}

@[simp] theorem run_nil (s : Quoting) : s.run [] = s := rfl

@[simp] theorem run_cons (s : Quoting) (c : Char) (cs : List Char) :
    s.run (c :: cs) = (s.next c).run cs := rfl

/-- The state behind a text is reached half by half. -/
@[simp] theorem run_append (s : Quoting) (cs more : List Char) :
    s.run (cs ++ more) = (s.run cs).run more := List.foldl_append

/-- Once astray, always astray. -/
theorem run_astray (cs : List Char) : astray.run cs = astray := by
  induction cs with
  | nil => rfl
  | cons c cs ih => exact ih

/-! Single characters. -/

@[simp] theorem next_outside_quote (q : Quote) : outside.next q.char = inside q false := by
  rw [next, Quote.ofChar?_char]

@[simp] theorem next_outside_backslash : outside.next '\\' = astray := rfl

/-- Plain characters outside of quotations change nothing. -/
theorem next_outside_of_plain (plain : isPlain c = true) : outside.next c = outside := by
  simp only [isPlain, Bool.and_eq_true, bne_iff_ne, Option.isNone_iff_eq_none] at plain
  rw [next, plain.2]
  exact if_neg plain.1

@[simp] theorem next_escaped (q : Quote) (c : Char) : (inside q true).next c = inside q false := rfl

@[simp] theorem next_backslash (q : Quote) : (inside q false).next '\\' = inside q true := rfl

/-- A quote ends the quotation that it has begun. -/
@[simp] theorem next_quote (q : Quote) : (inside q false).next q.char = outside := by
  cases q <;> rfl

/-- Other characters inside a quotation change nothing. -/
theorem next_inside (escape : c ≠ '\\') (other : c ≠ q.char) :
    (inside q false).next c = inside q false := by
  rw [next, if_neg escape, if_neg other]

/-! Two readings of one text. -/

/-- Whether the next character is taken literally. -/
def isEscaped : Quoting → Bool
  | inside _ escaped => escaped
  | _ => false

/-- Whether two readings do not meet outside of quotations any more: one is astray, or they are at
    different places, and a backslash has escaped the next character for both or for neither. -/
def Apart (s s' : Quoting) : Prop :=
  s = astray ∨ s' = astray ∨ (s ≠ s' ∧ s.isEscaped = s'.isEscaped)

theorem Apart.symm (h : Apart s s') : Apart s' s := by
  rcases h with lost | lost | ⟨other, escaped⟩
  · exact .inr (.inl lost)
  · exact .inl lost
  · exact .inr (.inr ⟨other.symm, escaped.symm⟩)

/-- Two readings of which none is escaped are apart at different places. -/
theorem apart_of_ne (other : s ≠ s') (here : s.isEscaped = false) (there : s'.isEscaped = false) :
    Apart s s' :=
  .inr (.inr ⟨other, here.trans there.symm⟩)

/-- Outside of quotations and in one, a character is read differently. -/
theorem apart_outside_inside (q : Quote) (c : Char) :
    Apart (outside.next c) ((inside q false).next c) := by
  by_cases plain : isPlain c = true
  · obtain ⟨escape, quote⟩ := ne_of_isPlain plain
    rw [next_outside_of_plain plain, next_inside escape (quote q)]
    exact apart_of_ne nofun rfl rfl
  rcases not_isPlain_iff.mp plain with rfl | ⟨q', rfl⟩
  · exact .inl next_outside_backslash
  rw [next_outside_quote]
  by_cases same : q' = q
  · rw [same, next_quote]
    exact apart_of_ne nofun rfl rfl
  · have escape : q'.char ≠ '\\' := by cases q' <;> decide
    rw [next_inside escape (Quote.char_injective.ne same)]
    refine apart_of_ne ?_ rfl rfl
    rintro ⟨⟩
    exact same rfl

/-- In two different quotations, a character closes one at most. -/
theorem apart_inside_inside {q' : Quote} (other : q ≠ q') (c : Char) :
    Apart ((inside q false).next c) ((inside q' false).next c) := by
  have stay (escaped : Bool) : inside q escaped ≠ inside q' escaped := by
    rintro ⟨⟩
    exact other rfl
  by_cases escape : c = '\\'
  · rw [escape, next_backslash, next_backslash]
    exact .inr (.inr ⟨stay true, rfl⟩)
  by_cases first : c = q.char
  · have second : c ≠ q'.char := first ▸ Quote.char_injective.ne other
    rw [next_inside escape second, first, next_quote]
    exact apart_of_ne nofun rfl rfl
  rw [next_inside escape first]
  by_cases second : c = q'.char
  · rw [second, next_quote]
    exact apart_of_ne nofun rfl rfl
  · rw [next_inside escape second]
    exact apart_of_ne (stay false) rfl rfl

/-- Two readings that are apart stay so. -/
theorem Apart.next (h : Apart s s') (c : Char) : Apart (s.next c) (s'.next c) := by
  rcases h with rfl | rfl | ⟨other, escaped⟩
  · exact .inl rfl
  · exact .inr (.inl rfl)
  cases s with
  | astray => exact .inl rfl
  | outside =>
    cases s' with
    | outside => exact absurd rfl other
    | astray => exact .inr (.inl rfl)
    | inside q escaped' =>
      cases escaped
      exact apart_outside_inside q c
  | inside q escaped' =>
    cases s' with
    | astray => exact .inr (.inl rfl)
    | outside =>
      cases escaped
      exact (apart_outside_inside q c).symm
    | inside q' escaped' =>
      cases escaped
      have quotes : q ≠ q' := by
        rintro rfl
        exact other rfl
      cases escaped' with
      | true => exact apart_of_ne (by simpa using quotes) rfl rfl
      | false => exact apart_inside_inside quotes c

/-- States that are apart stay apart, whatever is read. -/
theorem Apart.run (h : Apart s s') (cs : List Char) : Apart (s.run cs) (s'.run cs) := by
  induction cs generalizing s s' with
  | nil => exact h
  | cons c cs ih => exact ih (h.next c)

theorem Apart.ne_outside (h : Apart outside s) : s ≠ outside := by
  rcases h with lost | lost | ⟨other, -⟩
  · cases lost
  · rw [lost]
    nofun
  · exact other.symm

/-- Where all of a text leads to the outside and so does what stands behind a plain character, what
    stands before it does. -/
theorem run_front (plain : isPlain c = true) {front : List Char}
    (whole : outside.run (front ++ c :: rest) = outside) (behind : outside.run rest = outside) :
    outside.run front = outside := by
  obtain ⟨escape, quote⟩ := ne_of_isPlain plain
  rw [run_append, run_cons] at whole
  generalize outside.run front = s at whole ⊢
  by_contra open_
  -- No reading is escaped behind the plain character, and the one from the outside is still there.
  have apart : Apart outside (s.next c) := by
    cases s with
    | outside => exact absurd rfl open_
    | astray => exact .inr (.inl rfl)
    | inside q escaped =>
      cases escaped with
      | true => exact apart_of_ne nofun rfl rfl
      | false =>
        rw [next_inside escape (quote q)]
        exact apart_of_ne nofun rfl rfl
  have later := apart.run rest
  rw [behind] at later
  exact later.ne_outside whole

end Quoting

theorem Lexeme.IsClosed.of_unquoted {l : Lexeme} (unquoted : l.kind.isQuoted = false) :
    l.IsClosed := by
  intro quoted
  cases unquoted.symm.trans quoted

/-! The characters of lexemes. -/

namespace Form

open Scan

variable {c : Char} {rest run behind cluster word : List Char} {kind : TokenKind}
  {channel : Channel}

theorem NameStart.plain (h : NameStart c) : isPlain c = true :=
  isPlain_of_class (isNameStart_iff.mpr h) rfl

theorem RunChar.plain (h : RunChar c) : isPlain c = true :=
  isPlain_of_class (isNameContinue_iff.mpr h) rfl

theorem DateChar.plain (h : DateChar c) : isPlain c = true :=
  isPlain_of_class (isDateChar_iff.mpr h) rfl

theorem IsRun.plain (h : IsRun rest run behind) : ∀ c ∈ run, isPlain c = true := by
  obtain ⟨starts, greedy⟩ := h
  refine List.forall_mem_cons.mpr ⟨?_, fun c member => (greedy.members c member).plain⟩
  cases starts with
  | plain _ start => exact start.plain
  | star => rfl

theorem IsCluster.plain (h : IsCluster run behind cluster) : ∀ c ∈ cluster, isPlain c = true := by
  cases h with
  | none => nofun
  | second _ isRun => exact List.forall_mem_cons.mpr ⟨rfl, isRun.plain⟩

theorem IsGroup.plain (h : IsGroup word) : ∀ c ∈ word, isPlain c = true := by
  obtain ⟨separator, -, members⟩ := h
  refine List.forall_mem_cons.mpr ⟨?_, fun c member => (members c member).plain⟩
  rcases separator with rfl | rfl <;> rfl

/-- Names contain no quotes. -/
theorem IsName.plain {groups : List (List Char)} (h : IsName rest run cluster groups) :
    ∀ c ∈ run ++ cluster ++ groups.flatten, isPlain c = true := by
  obtain ⟨⟨behind, isRun, isCluster, -⟩, isGroup⟩ := h
  refine List.forall_mem_append.mpr ⟨?_, fun c member => ?_⟩
  · exact List.forall_mem_append.mpr ⟨isRun.plain, isCluster.plain⟩
  · obtain ⟨group, given, inside⟩ := List.mem_flatten.mp member
    exact (isGroup group given).plain c inside

/-- Numbers contain no quotes. -/
theorem IsNumber.plain {whole fraction : List Char} (h : IsNumber rest whole fraction) :
    ∀ c ∈ whole ++ fraction, isPlain c = true := by
  have plain {c : Char} (digit : Digit c) : isPlain c = true := DateChar.plain (.inl digit)
  obtain ⟨⟨-, digits⟩, optional, -⟩ := h
  refine List.forall_mem_append.mpr ⟨fun c member => plain (digits c member), ?_⟩
  rcases optional with rfl | ⟨ds, rfl, -, digits'⟩
  · nofun
  · exact List.forall_mem_cons.mpr ⟨rfl, fun c member => plain (digits' c member)⟩

/-- Only quotations and what is no lexeme have other characters than plain ones. -/
theorem Munches.plain (h : Munches rest kind channel word) (known : kind ≠ .unrecognized)
    (unquoted : kind.isQuoted = false) : ∀ c ∈ word, isPlain c = true := by
  cases h with
  | space _ greedy =>
    exact fun c member => isPlain_of_class (isBlank_iff.mpr (greedy.members c member)) rfl
  | name isName => exact isName.plain
  | number isNumber => exact isNumber.plain
  | @mark m => exact List.all_eq_true.mp (by cases m <;> rfl)
  | closed => cases unquoted
  | unclosed => cases unquoted
  | unrecognized => exact absurd rfl known

/-- What is not recognized is a single character, and no quote. -/
theorem Munches.of_unrecognized (h : Munches rest kind channel word)
    (unknown : kind = .unrecognized) : ∃ c, word = [c] ∧ ∀ q : Quote, c ≠ q.char := by
  cases h with
  | unrecognized _ _ _ _ noQuote => exact ⟨_, rfl, noQuote⟩
  | name _ _ nameKind => cases nameKind <;> cases unknown
  | number => split at unknown <;> cases unknown
  | _ => cases unknown

end Form

namespace Quoting

open Scan

variable {c : Char} {cs : List Char} {q : Quote}

/-- A text of plain characters leaves no quotation open. -/
theorem run_plain (plain : ∀ c ∈ cs, isPlain c = true) : outside.run cs = outside := by
  induction cs with
  | nil => rfl
  | cons c cs ih =>
    obtain ⟨first, others⟩ := List.forall_mem_cons.mp plain
    rw [run_cons, next_outside_of_plain first, ih others]

theorem decode_single (q : Quote) (escape : c ≠ '\\') :
    (q.decode [c]).2 = decide (c = q.char) := by
  rw [Quote.decode]
  · split <;> simp [*]
  · exact escape

/-- A quotation leads to the outside if it has its end. -/
theorem run_extent (q : Quote) (cs : List Char) :
    (inside q false).run (q.extent cs).1 = outside ↔ (q.decode (q.extent cs).1).2 = true := by
  fun_induction Quote.extent q cs with
  | case1 | case2 => simp [Quote.decode]
  | case3 c cs body tail found ih =>
    rw [found] at ih
    simpa [Quote.decode] using ih
  | case4 c escape =>
    rw [decode_single q escape, decide_eq_true_eq, run_cons, run_nil]
    by_cases quote : c = q.char
    · rw [quote, next_quote]
      simp
    · rw [next_inside escape quote]
      simp [quote]
  | case5 cs body tail found escape ih =>
    rw [found] at ih
    simpa [decode_cons_cons q escape] using ih
  | case6 d cs other escape => simp [decode_single q escape]
  | case7 c d cs escape other body tail found ih =>
    rw [found] at ih
    rw [run_cons, next_inside escape other]
    cases body with
    | nil => simp [Quote.decode, other]
    | cons e body => simpa only [decode_cons_cons q escape, if_neg other] using ih

/-- A lexeme leads to the outside if it is closed, unless it is a character that is no lexeme. -/
theorem run_cut (known : (cut c cs).kind ≠ .unrecognized) :
    outside.run (cut c cs).text = outside ↔ (cut c cs).lexeme.IsClosed := by
  cases quoted : (cut c cs).kind.isQuoted with
  | false =>
    obtain ⟨channel, munches⟩ := Form.munches_cut c cs
    exact iff_of_true (run_plain (munches.plain known quoted)) (.of_unquoted quoted)
  | true =>
    obtain ⟨q, found⟩ := exists_quote_of_isQuoted quoted
    rw [char_of_ofChar? found, cut_quote, run_cons, next_outside_quote, run_extent]
    simp [Lexeme.IsClosed, Cut.lexeme, TokenKind.isQuoted, unquote, Quote.ofChar?_char]

/-- A character that is no lexeme leaves the text where it is or leads it astray. -/
theorem run_unrecognized (unknown : (cut c cs).kind = .unrecognized) :
    outside.run (cut c cs).text = outside ∨ outside.run (cut c cs).text = astray := by
  obtain ⟨channel, munches⟩ := Form.munches_cut c cs
  obtain ⟨d, text, noQuote⟩ := munches.of_unrecognized unknown
  rw [text, run_cons, run_nil]
  by_cases escape : d = '\\'
  · exact .inr (escape ▸ next_outside_backslash)
  · refine .inl (next_outside_of_plain ?_)
    by_contra special
    rcases not_isPlain_iff.mp special with same | ⟨q, same⟩
    · exact escape same
    · exact noQuote q same

/-- A text without lexical problems leads to the outside. -/
theorem run_of_sound (sound : ∀ l ∈ lexemes cs, l.IsSound) : outside.run cs = outside := by
  fun_induction lexemes cs with
  | case1 => rfl
  | case2 c cs space ih =>
    have closed : (cut c cs).lexeme.IsClosed :=
      .of_unquoted (congrArg TokenKind.isQuoted space)
    rw [← cut_text_append_rest, run_append, (run_cut (by simp [space])).mpr closed, ih sound]
  | case3 c cs word ih =>
    obtain ⟨first, others⟩ := List.forall_mem_cons.mp sound
    have known : (cut c cs).kind ≠ .unrecognized := by
      intro unknown
      have significant := first.1
      simp [Lexeme.isSignificant, Cut.lexeme, unknown, TokenKind.channel] at significant
    rw [← cut_text_append_rest, run_append, (run_cut known).mpr first.2, ih others]

/-- Whatever leads to the outside has all its quotations closed. -/
theorem closed_of_run {cs : List Char} (h : outside.run cs = outside) : Closed cs := by
  match cs with
  | [] => exact closed_nil
  | c :: cs =>
    have shorter := cut_rest_length_le c cs
    rw [← cut_text_append_rest, run_append] at h
    rw [closed_cons]
    by_cases unknown : (cut c cs).kind = .unrecognized
    · have closed : (cut c cs).lexeme.IsClosed :=
        .of_unquoted (congrArg TokenKind.isQuoted unknown)
      rcases run_unrecognized unknown with here | lost
      · rw [here] at h
        exact ⟨closed, closed_of_run h⟩
      · rw [lost, run_astray] at h
        cases h
    by_cases closed : (cut c cs).lexeme.IsClosed
    · rw [(run_cut unknown).mpr closed] at h
      exact ⟨closed, closed_of_run h⟩
    · rw [rest_of_open closed] at h
      exact absurd ((run_cut unknown).mp h) closed
termination_by cs.length

end Quoting

/-- If neither a text nor what stands in it behind a character that ends every lexeme has a lexical
    problem, then neither has what stands before that. -/
theorem Scan.Reads.front {front rest : List Char} {c : Char} {ls more : List Lexeme}
    (whole : Reads (front ++ c :: rest) ls) (behind : Reads rest more) (stop : isStop c = true)
    (plain : isPlain c = true) : Reads front (lexemes front) := by
  obtain ⟨rfl, sound⟩ := whole
  obtain ⟨rfl, sound'⟩ := behind
  have closed : Closed front := Quoting.closed_of_run
    (Quoting.run_front plain (Quoting.run_of_sound sound) (Quoting.run_of_sound sound'))
  refine ⟨rfl, fun l member => sound l ?_⟩
  rw [lexemes_append (stops_cons.mpr stop) closed]
  exact List.mem_append_left _ member

end PipedQuery
