import PipedQuery.Proofs.Scan.Munch.Classes
import PipedQuery.Proofs.Scan.Quotations

/-!
# The longest number

A number is some digits and maybe a point with some more.  The scanner takes the point only where a
digit stands behind it, so that no other number at the same place is longer
(`Form.IsNumber.length_le`), and only one is as long (`Form.eq_cutNumber`).
-/

namespace PipedQuery

namespace Form

open Scan

variable {c : Char} {cs whole fraction : List Char}

theorem cutNumber_cases (c : Char) (cs : List Char) :
    (∃ d ds, cs.dropWhile Char.isDigit = '.' :: d :: ds ∧ d.isDigit = true ∧
      (cutNumber c cs).kind = .decimal ∧ (cutNumber c cs).text =
        (c :: cs.takeWhile Char.isDigit) ++ '.' :: d :: ds.takeWhile Char.isDigit) ∨
    ((∀ d ds, cs.dropWhile Char.isDigit = '.' :: d :: ds → ¬d.isDigit = true) ∧
      (cutNumber c cs).kind = .integer ∧
        (cutNumber c cs).text = (c :: cs.takeWhile Char.isDigit) ++ []) := by
  rw [List.append_nil]
  unfold cutNumber
  split
  · next d ds behind =>
    split
    · next digit => exact .inl ⟨d, ds, behind, digit, rfl, rfl⟩
    · next other =>
      refine .inr ⟨?_, rfl, rfl⟩
      intro d' ds' same
      rw [behind] at same
      cases same
      exact other
  · next other =>
    refine .inr ⟨?_, rfl, rfl⟩
    intro d ds same
    exact absurd same (other d ds)

theorem mem_digits {p : List Char} {c : Char} (member : c ∈ p.takeWhile Char.isDigit) : Digit c :=
  isDigit_iff_digit.mp (List.mem_takeWhile_imp member)

/-- A number that the scanner takes is of the form and of the kind. -/
theorem exists_isNumber_cutNumber (digit : c.isDigit = true) (cs : List Char) :
    ∃ whole fraction, IsNumber (c :: cs) whole fraction ∧
      whole ++ fraction = (cutNumber c cs).text ∧
      (cutNumber c cs).kind = if fraction = [] then .integer else .decimal := by
  have first : c :: cs.takeWhile Char.isDigit ≠ [] ∧
      ∀ d ∈ c :: cs.takeWhile Char.isDigit, Digit d := by
    refine ⟨List.cons_ne_nil _ _, ?_⟩
    intro d member
    rcases List.mem_cons.mp member with rfl | member
    · exact isDigit_iff_digit.mp digit
    · exact mem_digits member
  have split := List.takeWhile_append_dropWhile (p := Char.isDigit) (l := cs)
  rcases cutNumber_cases c cs with ⟨d, ds, behind, digit, kind, text⟩ | ⟨-, kind, text⟩
  · refine ⟨_, _, ⟨first, .inr ⟨_, rfl, List.cons_ne_nil _ _, ?_⟩, ?_⟩, text.symm, ?_⟩
    · intro e member
      rcases List.mem_cons.mp member with rfl | member
      · exact isDigit_iff_digit.mp digit
      · exact mem_digits member
    · rw [behind] at split
      refine ⟨ds.dropWhile Char.isDigit, ?_⟩
      simp only [List.cons_append, List.append_assoc, List.takeWhile_append_dropWhile, split]
    · rw [kind, if_neg (List.cons_ne_nil _ _)]
  · refine ⟨_, _, ⟨first, .inl rfl, ?_⟩, text.symm, ?_⟩
    · rw [List.append_nil]
      exact ⟨cs.dropWhile Char.isDigit, by rw [List.cons_append, split]⟩
    · rw [kind, if_pos rfl]

/-- No number at the start of a text is longer than the one that the scanner takes. -/
theorem IsNumber.length_le (h : IsNumber (c :: cs) whole fraction) :
    (whole ++ fraction).length ≤ (cutNumber c cs).text.length := by
  obtain ⟨⟨filled, digits⟩, optional, starts⟩ := h
  obtain ⟨d, whole, rfl⟩ := List.exists_cons_of_ne_nil filled
  rw [List.cons_append, List.cons_prefix_cons] at starts
  obtain ⟨rfl, starts⟩ := starts
  have members : ∀ e ∈ whole, e.isDigit = true :=
    fun e member => isDigit_iff_digit.mpr (digits e (by simp [member]))
  have ends : ∀ e ∈ fraction.head?, ¬e.isDigit = true := by
    intro e head
    rcases optional with rfl | ⟨ds, rfl, -⟩
    · cases head
    · cases head
      decide
  rcases takeWhile_of_prefix members ends starts with ⟨rfl, short⟩ | ⟨same, behind⟩
  · rcases cutNumber_cases d cs with ⟨e, es, -, -, -, text⟩ | ⟨-, -, text⟩
    · rw [text]
      simp only [List.length_append, List.length_cons, List.length_nil]
      omega
    · rw [text]
      simp only [List.length_append, List.length_cons, List.length_nil]
      omega
  · rcases optional with rfl | ⟨ds, rfl, more, others⟩
    · rcases cutNumber_cases d cs with ⟨e, es, -, -, -, text⟩ | ⟨-, -, text⟩
      · rw [text, same]
        simp only [List.length_append, List.length_cons, List.length_nil]
        omega
      · rw [text, same]
    · obtain ⟨e, ds, rfl⟩ := List.exists_cons_of_ne_nil more
      have digit := isDigit_iff_digit.mpr (others e (by simp))
      obtain ⟨last, split⟩ := behind
      rcases cutNumber_cases d cs with ⟨_, _, found, -, -, text⟩ | ⟨integer, -⟩
      · rw [found] at split
        obtain ⟨-, split⟩ := List.cons.inj split
        obtain ⟨rfl, rfl⟩ := List.cons.inj split
        have all : ∀ e ∈ ds, e.isDigit = true :=
          fun e member => isDigit_iff_digit.mpr (others e (by simp [member]))
        rw [text, same, List.append_eq, List.takeWhile_append_of_pos all]
        simp only [List.length_append, List.length_cons]
        omega
      · exact absurd digit (integer e (ds ++ last) split.symm)

theorem munches_cutNumber (digit : c.isDigit = true) :
    Munches (c :: cs) (cutNumber c cs).kind .default (cutNumber c cs).text := by
  obtain ⟨whole, fraction, isNumber, text, kind⟩ := exists_isNumber_cutNumber digit cs
  rw [← text, kind]
  apply Munches.number isNumber
  intro whole' fraction' other
  rw [text]
  exact other.length_le

theorem IsNumber.isDigit (h : IsNumber (c :: cs) whole fraction) : c.isDigit = true := by
  obtain ⟨⟨filled, digits⟩, -, starts⟩ := h
  obtain ⟨d, whole, rfl⟩ := List.exists_cons_of_ne_nil filled
  rw [List.cons_append, List.cons_prefix_cons] at starts
  rw [← starts.1]
  exact isDigit_iff_digit.mpr (digits d (by simp))

/-- There is a fraction if there is a point. -/
theorem IsNumber.point_iff {rest : List Char} (h : IsNumber rest whole fraction) :
    '.' ∈ whole ++ fraction ↔ ¬fraction = [] := by
  obtain ⟨⟨-, digits⟩, optional, -⟩ := h
  have apart : '.' ∉ whole := fun member => absurd (isDigit_iff_digit.mpr (digits _ member)) (by decide)
  rcases optional with rfl | ⟨ds, rfl, -⟩
  · simp [apart]
  · simp

theorem eq_cutNumber (isNumber : IsNumber (c :: cs) whole fraction)
    (longest : ∀ whole' fraction', IsNumber (c :: cs) whole' fraction' →
      (whole' ++ fraction').length ≤ (whole ++ fraction).length) :
    (if fraction = [] then .integer else .decimal) = (cutNumber c cs).kind ∧
      whole ++ fraction = (cutNumber c cs).text := by
  obtain ⟨whole', fraction', isNumber', text, kind⟩ := exists_isNumber_cutNumber isNumber.isDigit cs
  have short := isNumber.length_le
  have long := longest whole' fraction' isNumber'
  rw [← text] at short ⊢
  have same := eq_of_prefix isNumber.starts isNumber'.starts short long
  have point := isNumber.point_iff
  rw [same, isNumber'.point_iff, not_iff_not] at point
  refine ⟨?_, same⟩
  rw [kind]
  simp only [point]

end Form

end PipedQuery
