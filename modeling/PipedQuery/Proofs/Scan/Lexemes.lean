import PipedQuery.Diagnostic.Cause
import PipedQuery.Token.Scan

/-!
# The lexemes of a text

`Scan.lexemes` lists what is in a text besides blanks.  A text may be scanned in two halves where
the second one starts with a character that goes on with no lexeme and no quotation is left open in
the first (`lexemes_append`).  `Scan.Reads` is for texts without lexical problems.
-/

namespace PipedQuery

namespace Lexeme

/-- Whether a quotation has its closing quote.  Other lexemes need none. -/
def IsClosed (l : Lexeme) : Prop :=
  l.kind.isQuoted = true → (unquote l.text).terminated = true

/-- Whether the grammar reads the lexeme and nothing is wrong with it. -/
def IsSound (l : Lexeme) : Prop := l.isSignificant = true ∧ l.IsClosed

/-- The lexeme of a mark. -/
def mark (m : Mark) : Lexeme := ⟨.mark m, m.spelling⟩

@[simp] theorem mark_kind (m : Mark) : (mark m).kind = .mark m := rfl

theorem isSound_mark (m : Mark) : (mark m).IsSound := ⟨rfl, by simp [IsClosed, TokenKind.isQuoted]⟩

theorem lexicalCause?_of_isSound {l : Lexeme} (sound : l.IsSound) : lexicalCause? l = none := by
  obtain ⟨kind, text⟩ := l
  obtain ⟨significant, closed⟩ := sound
  cases kind with
  | unrecognized => simp [isSignificant, TokenKind.channel] at significant
  | quoted q => simp [lexicalCause?, closed rfl]
  | _ => rfl

end Lexeme

namespace Scan

/-- What the cut takes off the text. -/
def Cut.lexeme (cut : Cut) : Lexeme := ⟨cut.kind, String.ofList cut.text⟩

/-- The lexemes of a text, blanks left out. -/
def lexemes : List Char → List Lexeme
  | [] => []
  | c :: cs =>
    if (cut c cs).kind = .space then lexemes (cut c cs).rest
    else (cut c cs).lexeme :: lexemes (cut c cs).rest
termination_by cs => cs.length
decreasing_by
  all_goals
    have := cut_rest_length_le c cs
    simp only [List.length_cons]
    omega

/-- Whether every quotation in the text has its end. -/
def Closed (cs : List Char) : Prop := ∀ l ∈ lexemes cs, l.IsClosed

/-- Whether the text is made of the given lexemes and has no lexical problem. -/
def Reads (cs : List Char) (ls : List Lexeme) : Prop :=
  lexemes cs = ls ∧ ∀ l ∈ ls, l.IsSound

@[simp] theorem lexemes_nil : lexemes [] = [] := by rw [lexemes]

theorem lexemes_cons (c : Char) (cs : List Char) :
    lexemes (c :: cs) =
      if (cut c cs).kind = .space then lexemes (cut c cs).rest
      else (cut c cs).lexeme :: lexemes (cut c cs).rest := by
  rw [lexemes]

theorem lexemes_of_cut {c : Char} {cs text rest : List Char} {kind : TokenKind}
    (h : cut c cs = ⟨kind, text, rest⟩) (word : kind ≠ .space) :
    lexemes (c :: cs) = ⟨kind, String.ofList text⟩ :: lexemes rest := by
  simp [lexemes_cons, h, Cut.lexeme, word]

@[simp] theorem closed_nil : Closed [] := by simp [Closed]

@[simp] theorem reads_nil : Reads [] [] := by simp [Reads]

theorem Reads.closed {cs : List Char} {ls : List Lexeme} (h : Reads cs ls) : Closed cs := by
  intro l member
  exact (h.2 l (h.1 ▸ member)).2

theorem cut_plainMark {c : Char} {m : Mark} (h : plainMark? c = some m) (cs : List Char) :
    cut c cs = ⟨.mark m, [c], cs⟩ := by
  have word : isBlank c = false := by
    unfold plainMark? at h
    split at h <;> first | rfl | simp at h
  simp [cut, word, h]

theorem spelling_of_plainMark? {c : Char} {m : Mark} (h : plainMark? c = some m) :
    String.ofList [c] = m.spelling := by
  unfold plainMark? at h
  split at h <;> cases h <;> rfl

/-- A mark that starts no longer one is a lexeme before every text. -/
theorem lexemes_plainMark {c : Char} {m : Mark} (h : plainMark? c = some m) (cs : List Char) :
    lexemes (c :: cs) = .mark m :: lexemes cs := by
  rw [lexemes_of_cut (cut_plainMark h cs) (by simp), spelling_of_plainMark? h]
  rfl

end Scan

theorem Scanner.lexemes_tokens (s : Scanner) :
    (s.tokens.filter fun t => t.kind ≠ .space).map Token.toLexeme = Scan.lexemes s.rest := by
  fun_induction Scanner.tokens s with
  | case1 s found =>
    have empty : s.rest = [] := by
      unfold Scanner.next? at found
      split at found
      · assumption
      · simp at found
    simp [empty]
  | case2 s t s' found _ ih =>
    obtain ⟨rest, place⟩ := s
    cases rest with
    | nil => simp [Scanner.next?] at found
    | cons c cs =>
      simp only [Scanner.next?, Option.some.injEq, Prod.mk.injEq] at found
      obtain ⟨rfl, rfl⟩ := found
      rw [Scan.lexemes_cons, List.filter_cons]
      by_cases space : (Scan.cut c cs).kind = .space
      · rw [if_pos space, if_neg (by simpa using space), ih]
      · rw [if_neg space, if_pos (by simpa using space), List.map_cons, ih]
        rfl

/-- Scanning gives the lexemes of the text, put in their places. -/
theorem lexemes_scan (text : String) :
    ((scan text).filter fun t => t.kind ≠ .space).map Token.toLexeme =
      Scan.lexemes text.toList :=
  Scanner.lexemes_tokens (.ofText text)

/-- The grammar reads the significant ones of the lexemes. -/
theorem significant_scan (text : String) :
    ((scan text).filter fun t => t.isSignificant).map Token.toLexeme =
      (Scan.lexemes text.toList).filter Lexeme.isSignificant := by
  rw [← lexemes_scan, List.filter_map, List.filter_filter]
  congr 2
  funext t
  cases space : t.kind <;> simp [space, Lexeme.isSignificant, TokenKind.channel]

end PipedQuery
