import PipedQuery.Proofs.Scan.Lexemes

/-!
# Where lexemes end

A lexeme ends before a blank, a comma, a parenthesis, a pipe and every other character that no
lexeme goes on with (`isStop`).  So a text that has all its quotations closed is scanned alike
whether it stands alone or before such a character (`cut_append`, `lexemes_append`).
-/

namespace PipedQuery

namespace Scan

/-- Whether no lexeme of more than one character goes on with the character, blanks apart. -/
def isStop (c : Char) : Bool :=
  !(isNameContinue c || isNameStart c || c = '.' || c = ':' || c = '=' || (Quote.ofChar? c).isSome)

/-- Whether the lexeme before the text ends there. -/
def Stops (cs : List Char) : Prop := ∀ c ∈ cs.head?, isStop c = true

@[simp] theorem stops_nil : Stops [] := by simp [Stops]

theorem stops_cons {c : Char} {cs : List Char} : Stops (c :: cs) ↔ isStop c = true := by
  simp [Stops]

theorem Stops.append {cs rest : List Char} (h : Stops cs) (others : Stops rest) :
    Stops (cs ++ rest) := by
  cases cs with
  | nil => exact others
  | cons c cs => exact h

/-- No name goes on at a stop. -/
theorem isNameContinue_of_isStop {c : Char} (h : isStop c = true) : isNameContinue c = false := by
  simp only [isStop, Bool.not_eq_true', Bool.or_eq_false_iff] at h
  exact h.1.1.1.1.1

theorem isNameStart_of_isStop {c : Char} (h : isStop c = true) : isNameStart c = false := by
  simp only [isStop, Bool.not_eq_true', Bool.or_eq_false_iff] at h
  exact h.1.1.1.1.2

theorem ne_of_isStop {c d : Char} (h : isStop c = true) (hd : isStop d = false) : c ≠ d := by
  intro same
  rw [same, hd] at h
  exact Bool.false_ne_true h

theorem ne_quote_of_isStop {c : Char} (q : Quote) (h : isStop c = true) : c ≠ q.char :=
  ne_of_isStop h (by cases q <;> decide)

theorem isDigit_of_isStop {c : Char} (h : isStop c = true) : c.isDigit = false := by
  have := isNameContinue_of_isStop h
  simp only [isNameContinue, Char.isAlphanum, Bool.or_eq_false_iff] at this
  exact this.1.1.1.2

/-- No date goes on at a stop. -/
theorem isDateChar_of_isStop {c : Char} (h : isStop c = true) : isDateChar c = false := by
  simp [isDateChar, isDigit_of_isStop h, ne_of_isStop h (d := '*') (by decide)]

section Append

variable {rest : List Char}

/-- A run that does not go on in the rest is the same without the rest. -/
theorem takeWhile_append_of_head {p : Char → Bool} (cs : List Char)
    (h : ∀ c ∈ rest.head?, p c = false) : (cs ++ rest).takeWhile p = cs.takeWhile p := by
  induction cs with
  | nil => cases rest <;> simp_all
  | cons c cs ih => simp only [List.cons_append, List.takeWhile_cons, ih]

theorem dropWhile_append_of_head {p : Char → Bool} (cs : List Char)
    (h : ∀ c ∈ rest.head?, p c = false) :
    (cs ++ rest).dropWhile p = cs.dropWhile p ++ rest := by
  induction cs with
  | nil => cases rest <;> simp_all
  | cons c cs ih =>
    simp only [List.cons_append, List.dropWhile_cons, ih]
    split <;> rfl

theorem takeWhile_of_all {α : Type} {p : α → Bool} {l : List α} (h : ∀ a ∈ l, p a = true) :
    l.takeWhile p = l := by
  induction l with
  | nil => rfl
  | cons a l ih =>
    rw [List.takeWhile_cons_of_pos (h a (by simp)), ih fun b member => h b (by simp [member])]

theorem dropWhile_of_all {α : Type} {p : α → Bool} {l : List α} (h : ∀ a ∈ l, p a = true) :
    l.dropWhile p = [] := by
  induction l with
  | nil => rfl
  | cons a l ih =>
    rw [List.dropWhile_cons_of_pos (h a (by simp)), ih fun b member => h b (by simp [member])]

/-- Whether a name starts does not depend on what is behind a stop. -/
theorem startsName_append (h : Stops rest) (c : Char) (cs : List Char) :
    startsName (c :: (cs ++ rest)) = startsName (c :: cs) := by
  cases cs with
  | cons d ds => by_cases star : c = '*' <;> simp [startsName, star]
  | nil =>
    cases rest with
    | nil => rfl
    | cons d ds =>
      by_cases star : c = '*'
      · have := isNameStart_of_isStop (stops_cons.mp h)
        simp [startsName, star, this]
        decide
      · simp [startsName, star]

/-- No date suffix reaches beyond a stop. -/
theorem dateSuffix_append_rest (h : Stops rest) (cs : List Char) :
    dateSuffix (cs ++ rest) = ((dateSuffix cs).1, (dateSuffix cs).2 ++ rest) := by
  have noDate : ∀ c ∈ rest.head?, isDateChar c = false := fun c hc => isDateChar_of_isStop (h c hc)
  fun_induction dateSuffix cs with
  | case1 sep c cs date groups tail found ih =>
    rw [List.cons_append, List.cons_append, dateSuffix, if_pos date,
      takeWhile_append_of_head cs noDate, dropWhile_append_of_head cs noDate, ih, found]
  | case2 sep c cs date =>
    rw [List.cons_append, List.cons_append, dateSuffix, if_neg date]
  | case3 cs short =>
    match cs, short with
    | [], _ =>
      match rest, h with
      | [], _ => simp [dateSuffix]
      | [d], _ => simp [dateSuffix]
      | d :: e :: es, h =>
        have hd := stops_cons.mp h
        have dot := ne_of_isStop hd (d := '.') (by decide)
        have dash := ne_of_isStop hd (d := '-') (by decide)
        simp [dateSuffix, dot, dash]
    | [c], _ =>
      cases rest with
      | nil => simp [dateSuffix]
      | cons d ds => simp [dateSuffix, isDateChar_of_isStop (stops_cons.mp h)]
    | sep :: c :: cs, short => exact absurd rfl (short sep c cs)

/-- No cluster reaches beyond a stop. -/
theorem clusterSuffix_append_rest (h : Stops rest) (run cs : List Char) :
    clusterSuffix run (cs ++ rest) =
      ((clusterSuffix run cs).1, (clusterSuffix run cs).2 ++ rest) := by
  have noName : ∀ c ∈ rest.head?, isNameContinue c = false :=
    fun c hc => isNameContinue_of_isStop (h c hc)
  fun_cases clusterSuffix run cs with
  | case1 c cs starts =>
    simp only [List.cons_append, clusterSuffix, startsName_append h, if_pos starts,
      takeWhile_append_of_head cs noName, dropWhile_append_of_head cs noName]
  | case2 c cs starts =>
    simp only [List.cons_append, clusterSuffix, startsName_append h, if_neg starts]
  | case3 cs other =>
    match cs, other with
    | [], _ =>
      cases rest with
      | nil => simp [clusterSuffix]
      | cons d ds =>
        have colon := ne_of_isStop (stops_cons.mp h) (d := ':') (by decide)
        unfold clusterSuffix
        split
        · next same => exact absurd (List.cons.inj same).1 colon
        · rfl
    | [c], _ =>
      cases rest with
      | nil => simp [clusterSuffix]
      | cons d ds =>
        have star := ne_of_isStop (stops_cons.mp h) (d := '*') (by decide)
        have start := isNameStart_of_isStop (stops_cons.mp h)
        by_cases colon : c = ':'
        · simp [clusterSuffix, startsName, colon, star, start]
        · simp [clusterSuffix, colon]
    | c :: d :: ds, other =>
      have colon : c ≠ ':' := fun same => other d ds (by rw [same])
      simp [clusterSuffix, colon]

theorem extent_cons_cons (q : Quote) {c : Char} (escape : c ≠ '\\') (d : Char) (cs : List Char) :
    q.extent (c :: d :: cs) =
      if c = q.char then
        if d = q.char then (c :: d :: (q.extent cs).1, (q.extent cs).2) else ([c], d :: cs)
      else (c :: (q.extent (d :: cs)).1, (q.extent (d :: cs)).2) := by
  rw [Quote.extent]
  exact escape

theorem decode_cons_cons (q : Quote) {c : Char} (escape : c ≠ '\\') (d : Char) (cs : List Char) :
    q.decode (c :: d :: cs) =
      if c = q.char then
        if d = q.char then (c :: (q.decode cs).1, (q.decode cs).2) else ([], false)
      else (c :: (q.decode (d :: cs)).1, (q.decode (d :: cs)).2) := by
  rw [Quote.decode]
  exact escape

/-- No quotation that is closed in front of a stop reaches beyond it. -/
theorem extent_append_rest (q : Quote) (h : Stops rest) (cs : List Char)
    (closed : (q.decode (q.extent cs).1).2 = true) :
    q.extent (cs ++ rest) = ((q.extent cs).1, (q.extent cs).2 ++ rest) := by
  fun_induction Quote.extent q cs with
  | case1 | case2 => simp [Quote.decode] at closed
  | case3 c cs body tail found ih =>
    rw [found] at ih
    simp only [Quote.decode] at closed
    simp only [List.cons_append, Quote.extent, ih closed]
  | case4 c escape =>
    by_cases quote : c = q.char
    · cases rest with
      | nil => simp [Quote.extent]
      | cons d ds =>
        have other := ne_quote_of_isStop q (stops_cons.mp h)
        rw [List.cons_append, List.nil_append, extent_cons_cons q escape, if_pos quote,
          if_neg other]
    · simp [Quote.decode, quote] at closed
  | case5 cs body tail found escape ih =>
    rw [found] at ih
    simp only [decode_cons_cons q escape, if_true] at closed
    rw [List.cons_append, List.cons_append, extent_cons_cons q escape, if_pos rfl, if_pos rfl,
      ih closed]
  | case6 d cs other escape =>
    rw [List.cons_append, List.cons_append, extent_cons_cons q escape, if_pos rfl, if_neg other]
  | case7 c d cs escape other body tail found ih =>
    rw [found] at ih
    cases body with
    | nil => simp [Quote.decode, other] at closed
    | cons e body =>
      simp only [decode_cons_cons q escape, if_neg other] at closed
      rw [List.cons_append, List.cons_append, extent_cons_cons q escape, if_neg other,
        ← List.cons_append, ih closed]

/-- No mark reaches beyond a stop. -/
theorem cutMark_append (h : Stops rest) (c : Char) (plain withEqual : Mark) (cs : List Char) :
    cutMark c plain withEqual (cs ++ rest) =
      ⟨(cutMark c plain withEqual cs).kind, (cutMark c plain withEqual cs).text,
        (cutMark c plain withEqual cs).rest ++ rest⟩ := by
  cases cs with
  | nil =>
    cases rest with
    | nil => rfl
    | cons d ds =>
      have equal := ne_of_isStop (stops_cons.mp h) (d := '=') (by decide)
      simp [cutMark, equal]
  | cons d ds => by_cases equal : d = '=' <;> simp [cutMark, equal]

/-- No number reaches beyond a stop. -/
theorem cutNumber_append (h : Stops rest) (c : Char) (cs : List Char) :
    cutNumber c (cs ++ rest) =
      ⟨(cutNumber c cs).kind, (cutNumber c cs).text, (cutNumber c cs).rest ++ rest⟩ := by
  have noDigit : ∀ c ∈ rest.head?, c.isDigit = false := fun c hc => isDigit_of_isStop (h c hc)
  have dot : ∀ c ∈ rest.head?, c ≠ '.' := fun c hc => ne_of_isStop (h c hc) (by decide)
  unfold cutNumber
  simp only [takeWhile_append_of_head cs noDigit, dropWhile_append_of_head cs noDigit]
  match cs.dropWhile Char.isDigit with
  | [] =>
    cases rest with
    | nil => rfl
    | cons d ds => simp_all
  | [e] =>
    cases rest with
    | nil => simp
    | cons d ds =>
      have digit := noDigit d (by simp)
      by_cases point : e = '.' <;> simp [point, digit]
  | e :: d :: ds =>
    by_cases point : e = '.'
    · by_cases digit : d.isDigit <;>
        simp [point, digit, takeWhile_append_of_head ds noDigit, dropWhile_append_of_head ds noDigit]
    · simp [point]

/-- No name reaches beyond a stop. -/
theorem cutName_append (h : Stops rest) (c : Char) (cs : List Char) :
    cutName c (cs ++ rest) =
      ⟨(cutName c cs).kind, (cutName c cs).text, (cutName c cs).rest ++ rest⟩ := by
  have noName : ∀ c ∈ rest.head?, isNameContinue c = false :=
    fun c hc => isNameContinue_of_isStop (h c hc)
  simp only [cutName, takeWhile_append_of_head cs noName, dropWhile_append_of_head cs noName,
    clusterSuffix_append_rest h, dateSuffix_append_rest h]

/-- A lexeme with its end is cut off alike before every text that it ends at. -/
theorem cut_append {c : Char} {cs : List Char} (h : Stops rest) (word : isBlank c = false)
    (closed : (cut c cs).lexeme.IsClosed) :
    cut c (cs ++ rest) = ⟨(cut c cs).kind, (cut c cs).text, (cut c cs).rest ++ rest⟩ := by
  unfold cut at closed ⊢
  simp only [word, Bool.false_eq_true, if_false] at closed ⊢
  cases mark : plainMark? c with
  | some m => rfl
  | none =>
    simp only [mark] at closed ⊢
    by_cases bang : c = '!'
    · simp only [if_pos bang, cutMark_append h]
    by_cases less : c = '<'
    · simp only [if_neg bang, if_pos less, cutMark_append h]
    by_cases greater : c = '>'
    · simp only [if_neg bang, if_neg less, if_pos greater, cutMark_append h]
    simp only [if_neg bang, if_neg less, if_neg greater] at closed ⊢
    cases quote : Quote.ofChar? c with
    | some q =>
      simp only [quote] at closed ⊢
      have terminated : (q.decode (q.extent cs).1).2 = true := by
        simpa [Lexeme.IsClosed, Cut.lexeme, TokenKind.isQuoted, unquote, quote] using closed
      simp only [extent_append_rest q h cs terminated]
    | none =>
      by_cases digit : c.isDigit
      · simp only [if_pos digit, cutNumber_append h]
      simp only [if_neg digit, startsName_append h]
      split
      · rw [cutName_append h]
      split <;> rfl

end Append

theorem cut_blank {c : Char} (blank : isBlank c = true) (cs : List Char) :
    cut c cs = ⟨.space, c :: cs.takeWhile isBlank, cs.dropWhile isBlank⟩ := by
  rw [cut, if_pos blank]

/-- Blanks at the start give no lexemes. -/
theorem lexemes_dropWhile_blank (cs : List Char) :
    lexemes (cs.dropWhile isBlank) = lexemes cs := by
  cases cs with
  | nil => rfl
  | cons c cs =>
    by_cases blank : isBlank c = true
    · rw [List.dropWhile_cons_of_pos blank, lexemes_cons, cut_blank blank]
      rfl
    · rw [List.dropWhile_cons_of_neg blank]

theorem lexemes_blank {c : Char} (blank : isBlank c = true) (cs : List Char) :
    lexemes (c :: cs) = lexemes cs := by
  rw [← lexemes_dropWhile_blank (c :: cs), List.dropWhile_cons_of_pos blank,
    lexemes_dropWhile_blank]

/-- A text is closed if its first lexeme is and the rest is. -/
theorem closed_cons {c : Char} {cs : List Char} :
    Closed (c :: cs) ↔ (cut c cs).lexeme.IsClosed ∧ Closed (cut c cs).rest := by
  unfold Closed
  rw [lexemes_cons]
  by_cases space : (cut c cs).kind = .space
  · simp [space, Lexeme.IsClosed, Cut.lexeme, TokenKind.isQuoted]
  · simp [space]

/-- A text with all its quotations closed is scanned alike before every text that a lexeme ends
    at. -/
theorem lexemes_append {cs rest : List Char} (h : Stops rest) (closed : Closed cs) :
    lexemes (cs ++ rest) = lexemes cs ++ lexemes rest := by
  match cs with
  | [] => simp
  | c :: cs =>
    obtain ⟨first, others⟩ := closed_cons.mp closed
    have shorter := cut_rest_length_le c cs
    cases blank : isBlank c with
    | true =>
      rw [List.cons_append, lexemes_blank blank, lexemes_blank blank]
      exact lexemes_append h (by rwa [Closed, ← lexemes_blank blank])
    | false =>
      have ih := lexemes_append h others
      have same : (cut c (cs ++ rest)).lexeme = (cut c cs).lexeme := by
        rw [cut_append h blank first, Cut.lexeme, Cut.lexeme]
      rw [List.cons_append, lexemes_cons, lexemes_cons c cs, same, cut_append h blank first, ih]
      split <;> rfl
termination_by cs.length

section Reads

variable {cs rest : List Char} {ls more : List Lexeme}

/-- A text without lexical problems may be cut where a lexeme ends. -/
theorem Reads.append (h : Reads cs ls) (others : Reads rest more) (stops : Stops rest) :
    Reads (cs ++ rest) (ls ++ more) := by
  refine ⟨by rw [lexemes_append stops h.closed, h.1, others.1], ?_⟩
  intro l member
  rcases List.mem_append.mp member with member | member
  · exact h.2 l member
  · exact others.2 l member

/-- A blank in front of a text that reads as lexemes changes nothing. -/
theorem Reads.blank (h : Reads cs ls) : Reads (' ' :: cs) ls :=
  ⟨by rw [lexemes_blank rfl, h.1], h.2⟩

/-- A mark in front of it is read before them. -/
theorem Reads.mark {c : Char} {m : Mark} (h : Reads cs ls) (found : plainMark? c = some m) :
    Reads (c :: cs) (.mark m :: ls) := by
  refine ⟨by rw [lexemes_plainMark found, h.1], ?_⟩
  simpa [Lexeme.isSound_mark] using h.2

end Reads

end Scan

end PipedQuery
