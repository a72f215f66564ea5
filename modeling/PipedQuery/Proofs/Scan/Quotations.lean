import PipedQuery.Proofs.Scan.Boundary

/-!
# Scanning quotations

The quotations that `writeString` and `writeBackticks` make are single lexemes, and decoding them
brings the text back.
-/

namespace PipedQuery

namespace Scan

section Extent

variable {c : Char} {cs : List Char}

theorem cut_quote (q : Quote) (cs : List Char) :
    cut q.char cs = ⟨.quoted q, q.char :: (q.extent cs).1, (q.extent cs).2⟩ := by
  cases q <;> rfl

theorem char_of_ofChar? {q : Quote} (found : Quote.ofChar? c = some q) : c = q.char := by
  unfold Quote.ofChar? at found
  split at found
  · next same =>
    cases found
    exact same
  split at found
  · next same =>
    cases found
    exact same
  split at found
  · next same =>
    cases found
    exact same
  · cases found

theorem extent_cons_of_ne (q : Quote) (escape : c ≠ '\\') (other : c ≠ q.char) (more : cs ≠ []) :
    q.extent (c :: cs) = (c :: (q.extent cs).1, (q.extent cs).2) := by
  cases cs with
  | nil => exact absurd rfl more
  | cons d cs => rw [extent_cons_cons q escape, if_neg other]

theorem decode_cons_of_ne (q : Quote) (escape : c ≠ '\\') (other : c ≠ q.char) (more : cs ≠ []) :
    q.decode (c :: cs) = (c :: (q.decode cs).1, (q.decode cs).2) := by
  cases cs with
  | nil => exact absurd rfl more
  | cons d cs => rw [decode_cons_cons q escape, if_neg other]

theorem char_ne_backslash (q : Quote) : q.char ≠ '\\' := by
  cases q <;> decide

theorem extent_char (q : Quote) {rest : List Char} (stops : Stops rest) :
    q.extent (q.char :: rest) = ([q.char], rest) := by
  cases rest with
  | nil => cases q <;> rfl
  | cons d ds =>
    rw [extent_cons_cons q (char_ne_backslash q), if_pos rfl,
      if_neg (ne_quote_of_isStop q (stops_cons.mp stops))]

end Extent

section Strings

theorem extent_escapeString (cs : List Char) {rest : List Char} (stops : Stops rest) :
    Quote.single.extent (escapeString cs ++ '\'' :: rest) = (escapeString cs ++ ['\''], rest) := by
  induction cs with
  | nil => exact extent_char _ stops
  | cons c cs ih =>
    rw [escapeString]
    split
    · simp only [List.cons_append, Quote.extent, ih]
    · next plain =>
      rw [not_or] at plain
      rw [List.cons_append, extent_cons_of_ne .single plain.2 plain.1 (by simp), ih]
      rfl

theorem decode_escapeString (cs : List Char) :
    Quote.single.decode (escapeString cs ++ ['\'']) = (cs, true) := by
  induction cs with
  | nil => rfl
  | cons c cs ih =>
    rw [escapeString]
    split
    · next special =>
      have kept : Quote.single.escaped c = [c] := by
        rcases special with rfl | rfl <;> decide
      simp only [List.cons_append, Quote.decode, ih, kept, List.nil_append]
    · next plain =>
      rw [not_or] at plain
      rw [List.cons_append, decode_cons_of_ne .single plain.2 plain.1 (by simp), ih]

end Strings

section Backticks

theorem extent_escapeBackticks (cs : List Char) {rest : List Char} (stops : Stops rest) :
    Quote.backtick.extent (escapeBackticks cs ++ '`' :: rest) =
      (escapeBackticks cs ++ ['`'], rest) := by
  induction cs with
  | nil => exact extent_char _ stops
  | cons c cs ih =>
    rw [escapeBackticks]
    split
    · next special =>
      rcases special with rfl | rfl
      · simp only [List.cons_append]
        simp only [extent_cons_cons .backtick (show '`' ≠ '\\' by decide), Quote.char, if_true, ih]
      · simp only [List.cons_append, Quote.extent, ih]
    · next plain =>
      rw [not_or] at plain
      rw [List.cons_append, extent_cons_of_ne .backtick plain.2 plain.1 (by simp), ih]
      rfl

theorem decode_escapeBackticks (cs : List Char) :
    Quote.backtick.decode (escapeBackticks cs ++ ['`']) = (cs, true) := by
  induction cs with
  | nil => rfl
  | cons c cs ih =>
    rw [escapeBackticks]
    split
    · next special =>
      rcases special with rfl | rfl
      · simp only [List.cons_append]
        simp only [decode_cons_cons .backtick (show '`' ≠ '\\' by decide), Quote.char, if_true, ih]
      · simp only [List.cons_append, Quote.decode, ih, Quote.escaped, true_or, if_true,
          List.nil_append]
    · next plain =>
      rw [not_or] at plain
      rw [List.cons_append, decode_cons_of_ne .backtick plain.2 plain.1 (by simp), ih]

end Backticks

end Scan

/-- Decoding a written string brings it back. -/
theorem unquote_writeString (s : String) : unquote (writeString s) = ⟨s, true⟩ := by
  simp [unquote, writeString, Quote.ofChar?, Scan.decode_escapeString]

/-- Decoding a name between backticks brings it back. -/
theorem unquote_writeBackticks (s : String) : unquote (writeBackticks s) = ⟨s, true⟩ := by
  simp [unquote, writeBackticks, Quote.ofChar?, Scan.decode_escapeBackticks]

/-- The lexeme of a string. -/
def Lexeme.string (s : String) : Lexeme := ⟨.quoted .single, writeString s⟩

/-- The lexeme of a name between backticks. -/
def Lexeme.backticks (s : String) : Lexeme := ⟨.quoted .backtick, writeBackticks s⟩

@[simp] theorem Lexeme.string_kind (s : String) : (Lexeme.string s).kind = .quoted .single := rfl
@[simp] theorem Lexeme.backticks_kind (s : String) :
    (Lexeme.backticks s).kind = .quoted .backtick := rfl

namespace Scan

theorem reads_string (s : String) : Reads (writeString s).toList [.string s] := by
  have text : (writeString s).toList = '\'' :: (escapeString s.toList ++ ['\'']) := by
    simp [writeString]
  have whole : cut '\'' (escapeString s.toList ++ ['\'']) =
      ⟨.quoted .single, (writeString s).toList, []⟩ := by
    have body := extent_escapeString s.toList stops_nil
    rw [text]
    simp [cut, isBlank, plainMark?, Quote.ofChar?, body]
  refine ⟨?_, ?_⟩
  · rw [text, lexemes_of_cut whole (by simp), String.ofList_toList, lexemes_nil, Lexeme.string]
  · simp [Lexeme.IsSound, Lexeme.IsClosed, Lexeme.isSignificant, TokenKind.channel, Lexeme.string,
      unquote_writeString]

theorem reads_backticks (s : String) : Reads (writeBackticks s).toList [.backticks s] := by
  have text : (writeBackticks s).toList = '`' :: (escapeBackticks s.toList ++ ['`']) := by
    simp [writeBackticks]
  have whole : cut '`' (escapeBackticks s.toList ++ ['`']) =
      ⟨.quoted .backtick, (writeBackticks s).toList, []⟩ := by
    have body := extent_escapeBackticks s.toList stops_nil
    rw [text]
    simp [cut, isBlank, plainMark?, Quote.ofChar?, body]
  refine ⟨?_, ?_⟩
  · rw [text, lexemes_of_cut whole (by simp), String.ofList_toList, lexemes_nil, Lexeme.backticks]
  · simp [Lexeme.IsSound, Lexeme.IsClosed, Lexeme.isSignificant, TokenKind.channel,
      Lexeme.backticks, unquote_writeBackticks]

end Scan

end PipedQuery
