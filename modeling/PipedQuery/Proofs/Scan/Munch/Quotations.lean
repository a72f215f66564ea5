import PipedQuery.Proofs.Scan.Forms
import PipedQuery.Proofs.Scan.Quotations

/-!
# Quotations

The scanner goes on behind an escaped character and behind a doubled quote, and so ends a quotation
where the grammar does (`Form.extent_of_closes`), or nowhere.
-/

namespace PipedQuery

namespace Form

open Scan

variable {q : Quote} {cs body : List Char}

theorem Closes.prepend (h : Closes q cs body) (more : List Char)
    (isQuoted : IsQuoted q body → IsQuoted q (more ++ body)) :
    Closes q (more ++ cs) (more ++ body) := by
  obtain ⟨inner, behind, whole, ends⟩ := h
  exact ⟨isQuoted inner, behind, by rw [whole, List.append_assoc], ends⟩

/-- The scanner goes behind the quote that ends a quotation. -/
theorem extent_of_closes (h : Closes q cs body) : (q.extent cs).1 = body ++ [q.char] := by
  obtain ⟨isQuoted, behind, whole, ends⟩ := h
  induction isQuoted generalizing cs with
  | nil =>
    cases behind with
    | nil =>
      rw [whole]
      cases q <;> rfl
    | cons d ds =>
      have other : ¬d = q.char := fun same => ends (by rw [same]; rfl)
      rw [whole, List.nil_append, extent_cons_cons q (char_ne_backslash q), if_pos rfl,
        if_neg other, List.nil_append]
  | plain escape other _ ih =>
    rw [whole, List.cons_append, extent_cons_of_ne q escape other (by simp), ih rfl,
      List.cons_append]
  | escaped _ ih =>
    rw [whole]
    simp only [List.cons_append, Quote.extent, ih rfl]
  | doubled _ ih =>
    rw [whole]
    simp only [List.cons_append]
    rw [extent_cons_cons q (char_ne_backslash q), if_pos rfl, if_pos rfl, ih rfl]

/-- The scanner goes to the end of the text unless a quote ends the quotation. -/
theorem extent_cases (q : Quote) (cs : List Char) :
    (∃ body, Closes q cs body) ∨ (q.extent cs).1 = cs := by
  fun_induction Quote.extent q cs with
  | case1 => exact .inr rfl
  | case2 => exact .inr rfl
  | case3 c cs body rest found ih =>
    rw [found] at ih
    rcases ih with ⟨inner, closes⟩ | whole
    · exact .inl ⟨_, closes.prepend ['\\', c] .escaped⟩
    · exact .inr (congrArg ('\\' :: c :: ·) whole)
  | case4 c escape =>
    by_cases quote : c = q.char
    · refine .inl ⟨[], .nil, [], ?_, ?_⟩
      · rw [quote, List.nil_append]
      · intro again
        cases again
    · exact .inr rfl
  | case5 cs body rest found escape ih =>
    rw [found] at ih
    rcases ih with ⟨inner, closes⟩ | whole
    · exact .inl ⟨_, closes.prepend [q.char, q.char] .doubled⟩
    · exact .inr (congrArg (q.char :: q.char :: ·) whole)
  | case6 d cs other escape =>
    refine .inl ⟨[], .nil, d :: cs, rfl, ?_⟩
    intro head
    exact other (Option.some.inj head)
  | case7 c d cs escape other body rest found ih =>
    rw [found] at ih
    rcases ih with ⟨inner, closes⟩ | whole
    · exact .inl ⟨_, closes.prepend [c] (.plain escape other)⟩
    · exact .inr (congrArg (c :: ·) whole)

theorem munches_quote (q : Quote) (cs : List Char) :
    Munches (q.char :: cs) (.quoted q) .default (q.char :: (q.extent cs).1) := by
  by_cases closed : ∃ body, Closes q cs body
  · obtain ⟨body, closes⟩ := closed
    rw [extent_of_closes closes]
    exact .closed rfl closes
  · rw [(extent_cases q cs).resolve_left closed]
    exact .unclosed rfl fun body closes => closed ⟨body, closes⟩

end Form

end PipedQuery
