import PipedQuery.Name
import PipedQuery.Proofs.Scan.Munch

/-!
# Quoted texts in front of others

A text between quotes is one token in front of whatever does not start with another such quote,
because neither way of escaping leaves a quote that the scanner could take for the last one.
Decoding undoes both (`scan_written`).
-/

namespace PipedQuery

namespace Form

variable {q : Quote} {body rest : List Char}

/-- A quotation stops behind `body` unless a quote follows that doubles the last one. -/
theorem IsQuoted.extent_iff (isQuoted : IsQuoted q body) :
    (q.extent (body ++ q.char :: rest)).1 = body ++ [q.char] ↔ rest.head? ≠ some q.char := by
  constructor
  · intro stops
    rcases extent_cases q (body ++ q.char :: rest) with ⟨inner, closes⟩ | whole
    · -- The scanner stops behind one text only, so this is the one that it finds closed.
      have same : inner = body := by
        have both := (extent_of_closes closes).symm.trans stops
        exact List.append_cancel_right both
      obtain ⟨-, behind, split, single⟩ := closes
      rw [same] at split
      obtain ⟨-, rfl⟩ := List.cons.inj (List.append_cancel_left split)
      exact single
    · rw [whole] at stops
      obtain ⟨-, rfl⟩ := List.cons.inj (List.append_cancel_left stops)
      simp
  · intro single
    exact extent_of_closes ⟨isQuoted, rest, rfl, single⟩

theorem isQuoted_escapeString (cs : List Char) : IsQuoted .single (escapeString cs) := by
  induction cs with
  | nil => exact .nil
  | cons c cs ih =>
    rw [escapeString]
    by_cases special : c = '\'' ∨ c = '\\'
    · rw [if_pos special]
      exact .escaped ih
    · rw [if_neg special]
      rw [not_or] at special
      exact .plain special.2 special.1 ih

theorem isQuoted_escapeBackticks (cs : List Char) : IsQuoted .backtick (escapeBackticks cs) := by
  induction cs with
  | nil => exact .nil
  | cons c cs ih =>
    rw [escapeBackticks]
    by_cases special : c = '`' ∨ c = '\\'
    · rw [if_pos special]
      rcases special with rfl | rfl
      · exact .doubled ih
      · exact .escaped ih
    · rw [if_neg special]
      rw [not_or] at special
      exact .plain special.2 special.1 ih

end Form

/-- The text with each `c` in it doubled. -/
def doubled (c : Char) (cs : List Char) : List Char :=
  cs.flatMap fun d => if d = c then [d, d] else [d]

@[simp] theorem doubled_nil (c : Char) : doubled c [] = [] := rfl

@[simp] theorem doubled_cons (c d : Char) (cs : List Char) :
    doubled c (d :: cs) = (if d = c then [d, d] else [d]) ++ doubled c cs := rfl

/-- Doubling the backticks after the backslashes changes no backslash again. -/
theorem escapeBackticks_eq_doubled (cs : List Char) :
    escapeBackticks cs = doubled '`' (doubled '\\' cs) := by
  induction cs with
  | nil => rfl
  | cons c cs ih =>
    rw [escapeBackticks, ih]
    by_cases backslash : c = '\\'
    · simp [backslash]
    · by_cases backtick : c = '`'
      · simp [backtick]
      · simp [backslash, backtick]

/-- A quoted text is the first token of a text exactly if no further quote follows that would double
    its last one. -/
theorem scan_quoted_iff {q : Quote} {body : List Char} (isQuoted : Form.IsQuoted q body)
    (r : String) :
    (scan (String.ofList (q.char :: (body ++ [q.char])) ++ r)).head? =
        some ⟨⟨.quoted q, String.ofList (q.char :: (body ++ [q.char]))⟩, .origin⟩ ↔
      r.toList.head? ≠ some q.char := by
  have text : (String.ofList (q.char :: (body ++ [q.char])) ++ r).toList =
      q.char :: (body ++ q.char :: r.toList) := by simp
  rw [← isQuoted.extent_iff, scan, Scanner.ofText, text, Scanner.tokens_cons, Scan.cut_quote,
    List.head?_cons]
  constructor
  · intro first
    have same := congrArg (fun t : Token => t.text) (Option.some.inj first)
    exact (List.cons.inj (String.ofList_injective same)).2
  · intro stops
    rw [stops]

/-- A string between single quotes, and a name between backticks, is the first token of every text
    that starts with it and does not go on with another such quote, and decoding it brings the text
    back.  The name has its backslashes doubled first, and then its backticks. -/
theorem scan_written (s r : String) :
    (((scan (writeString s ++ r)).head? = some ⟨⟨.quoted .single, writeString s⟩, .origin⟩ ↔
        r.toList.head? ≠ some '\'') ∧
      unquote (writeString s) = ⟨s, true⟩) ∧
    (((scan (writeBackticks s ++ r)).head? =
          some ⟨⟨.quoted .backtick, writeBackticks s⟩, .origin⟩ ↔ r.toList.head? ≠ some '`') ∧
      unquote (writeBackticks s) = ⟨s, true⟩) ∧
    writeBackticks s = String.ofList ('`' :: (doubled '`' (doubled '\\' s.toList) ++ ['`'])) ∧
    (writeName s = s ∨ writeName s = writeBackticks s) := by
  refine ⟨⟨?_, unquote_writeString s⟩, ⟨?_, unquote_writeBackticks s⟩, ?_, ?_⟩
  · exact scan_quoted_iff (Form.isQuoted_escapeString s.toList) r
  · exact scan_quoted_iff (Form.isQuoted_escapeBackticks s.toList) r
  · rw [← escapeBackticks_eq_doubled]
    rfl
  · unfold writeName
    split
    · exact .inl rfl
    · exact .inr rfl

end PipedQuery
