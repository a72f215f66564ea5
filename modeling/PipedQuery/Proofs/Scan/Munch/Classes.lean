import PipedQuery.Proofs.Scan.Forms
import PipedQuery.Proofs.Scan.Tiling
import Mathlib.Data.List.TakeWhile

/-!
# Classes of characters

The classes that the forms of lexemes are made of are those that the scanner tests.  So as many
characters of a class as there are, are what it takes while the test holds (`Form.greedy_iff`), and any
other piece of them is shorter (`Form.takeWhile_of_prefix`).
-/

namespace PipedQuery

namespace Form

open Scan

variable {c : Char}

theorem isBlank_iff : isBlank c = true ↔ Blank c := by
  simp only [isBlank, Bool.or_eq_true, decide_eq_true_eq, or_assoc, Blank]

theorem isDigit_iff_digit : c.isDigit = true ↔ Digit c := by
  rw [Scan.isDigit_iff]
  exact Iff.rfl

theorem isAlpha_iff : c.isAlpha = true ↔ Letter c := by
  have either : c.isAlpha = true ↔ c.isUpper = true ∨ c.isLower = true := Bool.or_eq_true_iff
  rw [either, isUpper_iff, isLower_iff]
  exact Iff.rfl

theorem isNameStart_iff : isNameStart c = true ↔ NameStart c := by
  simp only [isNameStart, Bool.or_eq_true, decide_eq_true_eq, isAlpha_iff, or_assoc, NameStart]

theorem isNameContinue_iff : isNameContinue c = true ↔ RunChar c := by
  simp only [isNameContinue, Char.isAlphanum, Bool.or_eq_true, decide_eq_true_eq, isAlpha_iff,
    isDigit_iff_digit, or_assoc, RunChar]

theorem isKeywordChar_iff : isKeywordChar c = true ↔ WordChar c := by
  simp only [isKeywordChar, Char.isAlphanum, Bool.or_eq_true, decide_eq_true_eq, isAlpha_iff,
    isDigit_iff_digit, or_assoc, WordChar]

theorem isDateChar_iff : isDateChar c = true ↔ DateChar c := by
  simp only [isDateChar, Bool.or_eq_true, decide_eq_true_eq, isDigit_iff_digit, DateChar]

theorem startsRun_iff {cs : List Char} : StartsRun cs ↔ startsName cs = true := by
  rw [startsName_iff]
  constructor
  · rintro (⟨more, start⟩ | ⟨more, start⟩)
    · exact .inl ⟨_, more, rfl, isNameStart_iff.mpr start⟩
    · exact .inr ⟨_, more, rfl, isNameStart_iff.mpr start⟩
  · rintro (⟨c, more, rfl, start⟩ | ⟨c, more, rfl, start⟩)
    · exact .plain more (isNameStart_iff.mp start)
    · exact .star more (isNameStart_iff.mp start)

/-- The characters of a class that a text starts with are those that `List.takeWhile` takes. -/
theorem greedy_iff {p : Char → Bool} {P : Char → Prop} (same : ∀ c, p c = true ↔ P c)
    {rest taken behind : List Char} :
    Greedy P rest taken behind ↔ taken = rest.takeWhile p ∧ behind = rest.dropWhile p := by
  constructor
  · rintro ⟨rfl, members, ends⟩
    have all : ∀ c ∈ taken, p c = true := fun c member => (same c).mpr (members c member)
    have stop : behind.takeWhile p = [] ∧ behind.dropWhile p = behind := by
      cases behind with
      | nil => exact ⟨rfl, rfl⟩
      | cons c cs =>
        have other : ¬p c = true := fun found => ends c rfl ((same c).mp found)
        exact ⟨List.takeWhile_cons_of_neg other, List.dropWhile_cons_of_neg other⟩
    rw [List.takeWhile_append_of_pos all, List.dropWhile_append_of_pos all, stop.1, stop.2,
      List.append_nil]
    exact ⟨rfl, rfl⟩
  · rintro ⟨rfl, rfl⟩
    refine ⟨List.takeWhile_append_dropWhile.symm, ?_, ?_⟩
    · intro c member
      exact (same c).mp (List.mem_takeWhile_imp member)
    · intro c head found
      have other := List.head?_dropWhile_not p rest
      rw [Option.mem_def.mp head] at other
      simp [(same c).mpr found] at other

/-- Where characters of a class are followed by nothing or by another character, they are all that
    there are or the text ends with them. -/
theorem takeWhile_of_prefix {p : Char → Bool} {taken tail rest : List Char}
    (members : ∀ c ∈ taken, p c = true) (ends : ∀ c ∈ tail.head?, ¬p c = true)
    (starts : taken ++ tail <+: rest) :
    (tail = [] ∧ taken.length ≤ (rest.takeWhile p).length) ∨
      (taken = rest.takeWhile p ∧ tail <+: rest.dropWhile p) := by
  obtain ⟨behind, rfl⟩ := starts
  rw [List.append_assoc, List.takeWhile_append_of_pos members, List.dropWhile_append_of_pos members]
  cases tail with
  | nil =>
    refine .inl ⟨rfl, ?_⟩
    rw [List.length_append]
    exact Nat.le_add_right _ _
  | cons c cs =>
    have other := ends c rfl
    right
    rw [List.cons_append, List.takeWhile_cons_of_neg other, List.dropWhile_cons_of_neg other,
      List.append_nil]
    exact ⟨rfl, List.prefix_append (c :: cs) behind⟩

/-- Two starts of a text that are of the same length are the same. -/
theorem eq_of_prefix {word word' rest : List Char} (first : word <+: rest) (second : word' <+: rest)
    (short : word.length ≤ word'.length) (long : word'.length ≤ word.length) : word = word' :=
  (List.prefix_of_prefix_length_le first second short).eq_of_length (Nat.le_antisymm short long)

end Form

end PipedQuery
