import PipedQuery.Diagnostic.Cause
import PipedQuery.Proofs.Scan.Munch

/-!
# Where quotations end

The scanner and the decoder of quotations are two walks over the same text.  They agree on where a
quotation ends: the scanner takes the one prefix of the text that decoding finds closed and that no
quote follows, or all of the text if there is none.  So at most one quotation of a text is without
its end, and it is the last token (`scan_quotations`).
-/

namespace PipedQuery

namespace Quote

/-- Whether the quotation `word` is closed in front of `behind`: decoding it finds its closing quote,
    and no further quote follows that would double that one. -/
structure EndsAt (q : Quote) (word behind : List Char) : Prop where
  terminated : (unquote (String.ofList word)).terminated = true
  single : behind.head? ≠ some q.char

/-- Whether no prefix of the text is a quotation that is closed there. -/
def Endless (q : Quote) (rest : List Char) : Prop :=
  ∀ word behind, rest = word ++ behind → ¬q.EndsAt word behind

/-- Whether `word` is the shortest prefix of the text that is a quotation closed there. -/
def IsShortest (q : Quote) (rest word : List Char) : Prop :=
  (∃ behind, rest = word ++ behind ∧ q.EndsAt word behind) ∧
    ∀ word' behind', rest = word' ++ behind' → q.EndsAt word' behind' → word.length ≤ word'.length

/-- A decoder finds the closing quote exactly where a quoted text and one quote are all there is. -/
theorem decode_terminated_iff (q : Quote) (cs : List Char) :
    (q.decode cs).2 = true ↔ ∃ body, Form.IsQuoted q body ∧ cs = body ++ [q.char] := by
  constructor
  · intro terminated
    fun_induction Quote.decode q cs with
    | case1 | case2 | case5 | case7 => cases terminated
    | case3 c cs value flag found ih =>
      rw [found] at ih
      obtain ⟨body, quoted, rfl⟩ := ih terminated
      exact ⟨'\\' :: c :: body, .escaped quoted, rfl⟩
    | case4 => exact ⟨[], .nil, rfl⟩
    | case6 cs value flag found escape ih =>
      rw [found] at ih
      obtain ⟨body, quoted, rfl⟩ := ih terminated
      exact ⟨q.char :: q.char :: body, .doubled quoted, rfl⟩
    | case8 c d cs escape other value flag found ih =>
      rw [found] at ih
      obtain ⟨body, quoted, same⟩ := ih terminated
      exact ⟨c :: body, .plain escape other quoted, congrArg (c :: ·) same⟩
  · rintro ⟨body, quoted, rfl⟩
    induction quoted with
    | nil => cases q <;> rfl
    | plain escape other _ ih =>
      rw [List.cons_append, Scan.decode_cons_of_ne q escape other (by simp)]
      exact ih
    | escaped _ ih => exact ih
    | doubled _ ih =>
      simp only [List.cons_append]
      rw [Scan.decode_cons_cons q (Scan.char_ne_backslash q), if_pos rfl, if_pos rfl]
      exact ih

theorem unquote_cons_terminated (q : Quote) (cs : List Char) :
    (unquote (String.ofList (q.char :: cs))).terminated = (q.decode cs).2 := by
  cases q <;> simp [unquote, Quote.ofChar?, Quote.char]

variable {q : Quote} {cs word behind : List Char}

/-- A prefix ends where the decoder finds it closed exactly if the grammar of lexemes says so. -/
theorem endsAt_iff_closes (whole : q.char :: cs = word ++ behind) :
    q.EndsAt word behind ↔ ∃ body, Form.Closes q cs body ∧ word = q.char :: (body ++ [q.char]) := by
  constructor
  · rintro ⟨terminated, single⟩
    cases word with
    | nil => cases terminated
    | cons c more =>
      obtain ⟨rfl, rfl⟩ := List.cons.inj whole
      rw [unquote_cons_terminated, decode_terminated_iff] at terminated
      obtain ⟨body, quoted, rfl⟩ := terminated
      exact ⟨body, ⟨quoted, behind, by simp, single⟩, rfl⟩
  · rintro ⟨body, ⟨quoted, behind', whole', single⟩, rfl⟩
    have same : behind = behind' := by
      rw [whole'] at whole
      simpa using whole.symm
    refine ⟨?_, same ▸ single⟩
    rw [unquote_cons_terminated, decode_terminated_iff]
    exact ⟨body, quoted, rfl⟩

/-- Every prefix that is a closed quotation is what the scanner takes. -/
theorem EndsAt.eq_extent (ends : q.EndsAt word behind) (whole : q.char :: cs = word ++ behind) :
    word = q.char :: (q.extent cs).1 := by
  obtain ⟨body, closes, rfl⟩ := (endsAt_iff_closes whole).mp ends
  rw [Form.extent_of_closes closes]

/-- The scanner takes the shortest closed quotation, or all of a text that has none. -/
theorem extent_shortest_or_endless (q : Quote) (cs : List Char) :
    q.IsShortest (q.char :: cs) (q.char :: (q.extent cs).1) ∨
      (q.extent cs).1 = cs ∧ q.Endless (q.char :: cs) := by
  by_cases endless : q.Endless (q.char :: cs)
  · have open_ : ¬∃ body, Form.Closes q cs body := by
      rintro ⟨body, closes⟩
      obtain ⟨-, behind, whole, -⟩ := id closes
      have split : q.char :: cs = q.char :: (body ++ [q.char]) ++ behind := by simp [whole]
      exact endless _ _ split ((endsAt_iff_closes split).mpr ⟨body, closes, rfl⟩)
    exact .inr ⟨(Form.extent_cases q cs).resolve_left open_, endless⟩
  · simp only [Endless, not_forall, not_not] at endless
    obtain ⟨word, behind, whole, ends⟩ := endless
    refine .inl ⟨⟨behind, ?_, ?_⟩, fun word' behind' whole' ends' => ?_⟩
    · rw [← ends.eq_extent whole, whole]
    · rwa [← ends.eq_extent whole]
    · rw [ends'.eq_extent whole']

/-- What the scanner takes is closed unless no prefix of the text is. -/
theorem terminated_extent_iff (q : Quote) (cs : List Char) :
    (unquote (String.ofList (q.char :: (q.extent cs).1))).terminated = true ↔
      ¬q.Endless (q.char :: cs) := by
  constructor
  · intro terminated endless
    rcases extent_shortest_or_endless q cs with ⟨⟨behind, whole, ends⟩, -⟩ | ⟨all, -⟩
    · exact endless _ _ whole ends
    · rw [all] at terminated
      exact endless (q.char :: cs) [] (by simp) ⟨terminated, by simp⟩
  · intro ends
    rcases extent_shortest_or_endless q cs with ⟨⟨behind, whole, closed⟩, -⟩ | ⟨-, endless⟩
    · exact closed.terminated
    · exact absurd endless ends

end Quote

/-- Whether the token is a quotation without its end. -/
def Token.isOpen (t : Token) : Bool := t.kind.isQuoted && !(unquote t.text).terminated

/-- Whether the diagnostic is on a quotation without its end. -/
def Diagnostic.isUnterminated (d : Diagnostic) : Bool :=
  "unterminated ".toList.isPrefixOf d.message.toList

/-- The diagnostic on a quotation without its end. -/
def Token.openDiagnostic (t : Token) : Diagnostic :=
  ⟨.lexicalError, "unterminated " ++ t.kind.text, t.span, t.place.line, t.place.column⟩

section Tokens

variable {text : String} {before after : List Token} {t : Token} {q : Quote}

/-- The rest of a text from the start of a token on is made of that token and those behind it. -/
theorem charsOf_eq_rest {front rest : List Char} (split : scan text = before ++ t :: after)
    (whole : text.toList = front ++ rest)
    (start : (String.ofList front).utf8ByteSize = t.span.start) : rest = charsOf (t :: after) := by
  have same : front ++ rest = charsOf before ++ charsOf (t :: after) := by
    rw [← whole, charsOf_of_split split]
  exact eq_of_append_of_utf8ByteSize same (start.trans (span_start_of_split split))

/-- A lexeme that is a quotation starts with its quote. -/
theorem Form.Munches.starts_of_quoted {rest word : List Char} {channel : Channel}
    (h : Form.Munches rest (.quoted q) channel word) : ∃ cs, rest = q.char :: cs := by
  generalize kind : TokenKind.quoted q = k at h
  cases h with
  | name _ _ nameKind =>
    subst kind
    cases nameKind
  | number => split at kind <;> cases kind
  | closed whole | unclosed whole =>
    cases kind
    exact ⟨_, whole⟩
  | _ => cases kind

/-- Where a quotation starts in a text, and what the scanner takes of it. -/
theorem exists_extent_of_quoted (split : scan text = before ++ t :: after)
    (quoted : t.kind = .quoted q) :
    ∃ cs, charsOf (t :: after) = q.char :: cs ∧ t.text.toList = q.char :: (q.extent cs).1 := by
  obtain ⟨c, cs, rest, kind, word, -⟩ := Scanner.cut_of_tokens split
  have munches := Form.munches_cut_iff.mpr ⟨kind, rfl, rfl⟩
  rw [quoted] at munches
  obtain ⟨cs', same⟩ := munches.starts_of_quoted
  obtain ⟨rfl, rfl⟩ := List.cons.inj same
  exact ⟨cs, rest, by rw [word, Scan.cut_quote]⟩

/-- A quotation without its end is all that is left of the text. -/
theorem text_of_isOpen (split : scan text = before ++ t :: after) (open_ : t.isOpen = true) :
    t.text.toList = charsOf (t :: after) := by
  obtain ⟨kind, unclosed⟩ := Bool.and_eq_true_iff.mp open_
  cases quoted : t.kind with
  | quoted q =>
    obtain ⟨cs, rest, word⟩ := exists_extent_of_quoted split quoted
    rw [rest, word]
    rcases q.extent_shortest_or_endless cs with shortest | ⟨all, -⟩
    · obtain ⟨behind, -, ends⟩ := shortest.1
      have closed := ends.terminated
      rw [← word, String.ofList_toList] at closed
      rw [closed] at unclosed
      cases unclosed
    · rw [all]
  | _ =>
    rw [quoted] at kind
    cases kind

/-- Nothing comes behind a quotation without its end. -/
theorem eq_nil_of_isOpen (split : scan text = before ++ t :: after) (open_ : t.isOpen = true) :
    after = [] := by
  have all := text_of_isOpen split open_
  rw [charsOf_cons, List.self_eq_append_right] at all
  cases after with
  | nil => rfl
  | cons u more =>
    have later : (Scanner.ofText text).tokens = before ++ [t] ++ u :: more := by
      rw [List.append_assoc]
      exact split
    obtain ⟨c, cs, rest, -⟩ := Scanner.cut_of_tokens later
    rw [all] at rest
    cases rest

/-- The lexical diagnostic of a token is on a quotation without its end if the token is one. -/
theorem filter_lexicalDiagnostic (t : Token) :
    ((lexicalCause? t.toLexeme).map (Cause.diagnose t.stop (some t))).filter
        Diagnostic.isUnterminated =
      if t.isOpen then some t.openDiagnostic else none := by
  cases kind : t.kind with
  | unrecognized =>
    have cause : lexicalCause? t.toLexeme = some (.unrecognizedCharacter t.text) := by
      simp [lexicalCause?, kind]
    have other : Diagnostic.isUnterminated
        (Cause.diagnose t.stop (some t) (.unrecognizedCharacter t.text)) = false := by
      have message : (Cause.diagnose t.stop (some t) (.unrecognizedCharacter t.text)).message =
          "unrecognized character `" ++ visibleAlone t.text ++ "`" := rfl
      rw [Diagnostic.isUnterminated, message, String.toList_append, String.toList_append]
      -- What stands for the character does not matter, and must not be computed.
      generalize visibleAlone t.text = shown
      rfl
    rw [cause, Option.map_some, Option.filter_some, other]
    simp [Token.isOpen, kind, TokenKind.isQuoted]
  | quoted q =>
    by_cases closed : (unquote t.text).terminated = true
    · simp [lexicalCause?, kind, closed, Token.isOpen]
    · have cause : lexicalCause? t.toLexeme = some (.unterminated (.quoted q)) := by
        simp [lexicalCause?, kind, closed]
      have same : (Cause.unterminated (.quoted q)).diagnose t.stop (some t) = t.openDiagnostic := by
        rw [Token.openDiagnostic, kind]
        rfl
      have here : t.openDiagnostic.isUnterminated = true := by
        rw [Diagnostic.isUnterminated, Token.openDiagnostic, String.toList_append,
          List.isPrefixOf_iff_prefix]
        exact List.prefix_append _ _
      rw [cause, Option.map_some, same, Option.filter_some, here]
      simp [Token.isOpen, kind, TokenKind.isQuoted, closed]
  | _ => simp [lexicalCause?, kind, Token.isOpen, TokenKind.isQuoted]

/-- The lexical diagnostics on quotations without their end are those of the tokens that are such. -/
theorem filter_lexicalDiagnostics (tokens : List Token) :
    (lexicalDiagnostics tokens).filter Diagnostic.isUnterminated =
      (tokens.filter Token.isOpen).map Token.openDiagnostic := by
  rw [lexicalDiagnostics, List.filter_filterMap]
  simp only [filter_lexicalDiagnostic]
  induction tokens with
  | nil => rfl
  | cons t tokens ih => by_cases open_ : t.isOpen = true <;> simp [open_, ih]

/-- Only the last token may be a quotation without its end. -/
theorem filter_isOpen_scan (text : String) :
    (scan text).filter Token.isOpen = (scan text).getLast?.toList.filter Token.isOpen := by
  rcases List.eq_nil_or_concat (scan text) with none | ⟨before, last, split⟩
  · rw [none]
    rfl
  · have closed : before.filter Token.isOpen = [] := by
      rw [List.filter_eq_nil_iff]
      intro t member open_
      obtain ⟨front, back, rfl⟩ := List.append_of_mem member
      have split : scan text = front ++ t :: (back ++ [last]) := by
        rw [split, List.concat_eq_append, List.append_assoc, List.cons_append]
      have none := eq_nil_of_isOpen split open_
      exact List.append_ne_nil_of_right_ne_nil _ (List.cons_ne_nil last []) none
    rw [split, List.concat_eq_append, List.filter_append, closed, List.getLast?_concat]
    rfl

end Tokens

/-- Where a quotation starts, the token is the shortest prefix of the rest of the text that decoding
    finds closed in front of no further quote, or all of the rest if no prefix is.  So decoding finds
    it without its end exactly if no prefix is closed and it goes to the end of the text, and that is
    reported once at most, at the last token. -/
theorem scan_quotations (text : String) :
    (∀ t ∈ scan text, ∀ q, t.kind = .quoted q → ∀ front rest, text.toList = front ++ rest →
      (String.ofList front).utf8ByteSize = t.span.start →
        (q.IsShortest rest t.text.toList ∨ q.Endless rest ∧ t.text.toList = rest) ∧
          ((unquote t.text).terminated = false ↔
            q.Endless rest ∧ t.span.stop = text.utf8ByteSize)) ∧
      (lexicalDiagnostics (scan text)).filter Diagnostic.isUnterminated =
        ((scan text).getLast?.toList.filter Token.isOpen).map Token.openDiagnostic ∧
      (lexicalDiagnostics (scan text)).countP Diagnostic.isUnterminated ≤ 1 := by
  have last : (lexicalDiagnostics (scan text)).filter Diagnostic.isUnterminated =
      ((scan text).getLast?.toList.filter Token.isOpen).map Token.openDiagnostic := by
    rw [filter_lexicalDiagnostics, filter_isOpen_scan]
  refine ⟨?_, last, ?_⟩
  · intro t member q quoted front rest whole start
    obtain ⟨before, after, split⟩ := List.append_of_mem member
    obtain ⟨cs, found, word⟩ := exists_extent_of_quoted split quoted
    rw [← charsOf_eq_rest split whole start] at found
    have closed := q.terminated_extent_iff cs
    rw [← word, ← found, String.ofList_toList] at closed
    have taken := q.extent_shortest_or_endless cs
    rw [← word, ← found] at taken
    have taken : q.IsShortest rest t.text.toList ∨ q.Endless rest ∧ t.text.toList = rest :=
      taken.imp_right fun ⟨all, endless⟩ => ⟨endless, by rw [word, all, found]⟩
    refine ⟨taken, ?_⟩
    rw [← Bool.not_eq_true, closed, not_not]
    refine ⟨fun endless => ⟨endless, ?_⟩, And.left⟩
    have all : t.text.toList = rest := by
      rcases taken with ⟨⟨behind, split, ends⟩, -⟩ | ⟨-, all⟩
      · exact absurd ends (endless _ _ split)
      · exact all
    have parts : text = .ofList front ++ t.text := by
      apply String.toList_inj.mp
      rw [String.toList_append, String.toList_ofList, all, whole]
    rw [Token.span, parts, String.utf8ByteSize_append, start]
    rfl
  · rw [List.countP_eq_length_filter, last, List.length_map]
    exact (List.length_filter_le _ _).trans (by cases (scan text).getLast? <;> simp)

/-- A doubled quote ends no quotation, and the one behind it, which has no end, is reported. -/
theorem scan_quotations_doubled :
    (⟨⟨.quoted .single, "'it''s'"⟩, ⟨3, 1, 3⟩⟩ : Token) ∈ scan "é 'it''s' \"x" ∧
      Quote.single.IsShortest "'it''s' \"x".toList "'it''s'".toList ∧
      (lexicalDiagnostics (scan "é 'it''s' \"x")).filter Diagnostic.isUnterminated =
        [⟨.lexicalError, "unterminated string", ⟨11, 13⟩, 1, 11⟩] := by
  have member : (⟨⟨.quoted .single, "'it''s'"⟩, ⟨3, 1, 3⟩⟩ : Token) ∈ scan "é 'it''s' \"x" := by
    decide +kernel
  obtain ⟨ends, reported, -⟩ := scan_quotations "é 'it''s' \"x"
  obtain ⟨taken, -⟩ := ends _ member .single rfl ['é', ' '] "'it''s' \"x".toList (by decide)
    (by decide +kernel)
  have last : ((scan "é 'it''s' \"x").getLast?.toList.filter Token.isOpen).map Token.openDiagnostic =
      [⟨.lexicalError, "unterminated string", ⟨11, 13⟩, 1, 11⟩] := by
    decide +kernel
  refine ⟨member, taken.resolve_right ?_, reported.trans last⟩
  rintro ⟨-, all⟩
  exact absurd all (by decide)

end PipedQuery
