import PipedQuery.Proofs.Scan.Munch.Classes
import PipedQuery.Proofs.Scan.Quotations

/-!
# The longest mark

Three characters are a mark by themselves and another one with an equal sign behind them
(`Form.Compound`), and a star is a mark where it starts no name.  All other marks are single characters
of their own, so it takes one more character to tell the longest mark (`Form.cut_mark`).
-/

namespace PipedQuery

namespace Form

open Scan

/-- A character that starts a mark of its own and, with an equal sign behind it, another one. -/
inductive Compound : Char → Mark → Mark → Prop where
  | bang : Compound '!' .exclamation .notEqual
  | less : Compound '<' .less .lessEqual
  | greater : Compound '>' .greater .greaterEqual

variable {c : Char} {cs : List Char} {m plain withEqual : Mark}

theorem Compound.spelling (h : Compound c plain withEqual) :
    plain.spelling.toList = [c] ∧ withEqual.spelling.toList = [c, '='] := by
  cases h <;> exact ⟨rfl, rfl⟩

theorem Compound.plainMark? (h : Compound c plain withEqual) : plainMark? c = none := by
  cases h <;> rfl

/-- Where a compound mark starts, one is cut. -/
theorem Compound.cut (h : Compound c plain withEqual) (cs : List Char) :
    cut c cs = cutMark c plain withEqual cs := by
  cases h <;> rfl

theorem Compound.not_startsName (h : Compound c plain withEqual) :
    ¬Scan.startsName (c :: cs) = true := by
  cases h <;> exact Bool.false_ne_true

theorem plainMark?_spelling (found : plainMark? c = some m) :
    m.spelling.toList = [c] ∧ isNameStart c = false ∧ c ≠ '*' := by
  unfold plainMark? at found
  split at found
  case h_17 => cases found
  all_goals
    cases found
    decide

theorem not_startsName_of_plainMark? (found : plainMark? c = some m) :
    ¬Scan.startsName (c :: cs) = true := by
  obtain ⟨-, other, apart⟩ := plainMark?_spelling found
  intro starts
  rcases isNameStart_or_star starts with start | star
  · rw [start] at other
    cases other
  · exact apart star

/-- Every mark is written with one character of its own, is a `*` or is one of a compound pair. -/
theorem mark_forms (m : Mark) :
    (∃ c, plainMark? c = some m) ∨ m = .star ∨
      ∃ c plain withEqual, Compound c plain withEqual ∧ (m = plain ∨ m = withEqual) := by
  cases m
  case star => exact .inr (.inl rfl)
  case exclamation => exact .inr (.inr ⟨_, _, _, .bang, .inl rfl⟩)
  case notEqual => exact .inr (.inr ⟨_, _, _, .bang, .inr rfl⟩)
  case less => exact .inr (.inr ⟨_, _, _, .less, .inl rfl⟩)
  case lessEqual => exact .inr (.inr ⟨_, _, _, .less, .inr rfl⟩)
  case greater => exact .inr (.inr ⟨_, _, _, .greater, .inl rfl⟩)
  case greaterEqual => exact .inr (.inr ⟨_, _, _, .greater, .inr rfl⟩)
  case pipe => exact .inl ⟨'|', rfl⟩
  case comma => exact .inl ⟨',', rfl⟩
  case dot => exact .inl ⟨'.', rfl⟩
  case lParen => exact .inl ⟨'(', rfl⟩
  case rParen => exact .inl ⟨')', rfl⟩
  case lBracket => exact .inl ⟨'[', rfl⟩
  case rBracket => exact .inl ⟨']', rfl⟩
  case colon => exact .inl ⟨':', rfl⟩
  case equal => exact .inl ⟨'=', rfl⟩
  case plus => exact .inl ⟨'+', rfl⟩
  case minus => exact .inl ⟨'-', rfl⟩
  case slash => exact .inl ⟨'/', rfl⟩
  case percent => exact .inl ⟨'%', rfl⟩
  case tilde => exact .inl ⟨'~', rfl⟩
  case ampersand => exact .inl ⟨'&', rfl⟩
  case caret => exact .inl ⟨'^', rfl⟩

/-- A mark at the start of a text is a single character, or two of which the second is an equal
    sign. -/
theorem mark_of_prefix (starts : m.spelling.toList <+: c :: cs) :
    (m.spelling.toList = [c] ∧
      (plainMark? c = some m ∨ (m = .star ∧ c = '*') ∨ ∃ withEqual, Compound c m withEqual)) ∨
    ∃ plain more, Compound c plain m ∧ cs = '=' :: more ∧ m.spelling.toList = [c, '='] := by
  rcases mark_forms m with ⟨d, found⟩ | rfl | ⟨d, plain, withEqual, compound, rfl | rfl⟩
  · have spelled := (plainMark?_spelling found).1
    rw [spelled, List.cons_prefix_cons] at starts
    rw [starts.1] at spelled found
    exact .inl ⟨spelled, .inl found⟩
  · have spelled : Mark.star.spelling.toList = ['*'] := rfl
    rw [spelled, List.cons_prefix_cons] at starts
    rw [← starts.1]
    exact .inl ⟨spelled, .inr (.inl ⟨rfl, rfl⟩)⟩
  · have spelled := compound.spelling.1
    rw [spelled, List.cons_prefix_cons] at starts
    rw [starts.1] at spelled compound
    exact .inl ⟨spelled, .inr (.inr ⟨withEqual, compound⟩)⟩
  · have spelled := compound.spelling.2
    rw [spelled, List.cons_prefix_cons] at starts
    obtain ⟨rfl, more, rfl⟩ := starts
    exact .inr ⟨plain, more, compound, rfl, spelled⟩

/-- A mark with a character of its own is a form of the grammar. -/
theorem munches_plainMark? (found : plainMark? c = some m) :
    Munches (c :: cs) (.mark m) .default [c] := by
  have spelled := (plainMark?_spelling found).1
  rw [← spelled]
  apply Munches.mark
  · rw [startsRun_iff]
    exact not_startsName_of_plainMark? found
  · rw [spelled]
    exact ⟨cs, rfl⟩
  · intro other starts
    rw [spelled]
    rcases mark_of_prefix starts with ⟨single, -⟩ | ⟨plain, -, compound, -⟩
    · rw [single]
    · rw [compound.plainMark?] at found
      cases found

/-- So is what is cut where a compound mark starts. -/
theorem munches_cutMark (compound : Compound c plain withEqual) :
    Munches (c :: cs) (cutMark c plain withEqual cs).kind .default
      (cutMark c plain withEqual cs).text := by
  obtain ⟨alone, double⟩ := compound.spelling
  have noName : ¬StartsRun (c :: cs) := by
    rw [startsRun_iff]
    exact compound.not_startsName
  fun_cases cutMark c plain withEqual cs with
  | case1 cs =>
    rw [← double]
    apply Munches.mark noName
    · rw [double]
      exact ⟨cs, rfl⟩
    · intro other starts
      rw [double]
      rcases mark_of_prefix starts with ⟨single, -⟩ | ⟨-, -, -, -, both⟩
      · rw [single]
        exact Nat.le_succ 1
      · rw [both]
  | case2 cs apart =>
    rw [← alone]
    apply Munches.mark noName
    · rw [alone]
      exact ⟨cs, rfl⟩
    · intro other starts
      rw [alone]
      rcases mark_of_prefix starts with ⟨single, -⟩ | ⟨-, more, -, same, -⟩
      · rw [single]
      · exact absurd same (apart more)

/-- So is a `*` that starts no name. -/
theorem munches_star (noName : ¬Scan.startsName ('*' :: cs) = true) :
    Munches ('*' :: cs) (.mark .star) .default ['*'] := by
  apply Munches.mark (m := .star)
  · rw [startsRun_iff]
    exact noName
  · exact ⟨cs, rfl⟩
  · intro other starts
    rcases mark_of_prefix starts with ⟨single, -⟩ | ⟨plain, more, compound, -⟩
    · rw [single]
      exact Nat.le_refl 1
    · cases compound

theorem cut_plainMark? (found : plainMark? c = some m) (cs : List Char) :
    cut c cs = ⟨.mark m, [c], cs⟩ := by
  have blank : isBlank c = false := by
    unfold plainMark? at found
    split at found
    case h_17 => cases found
    all_goals rfl
  rw [cut, blank]
  simp only [Bool.false_eq_true, if_false, found]

theorem cut_star (noName : ¬Scan.startsName ('*' :: cs) = true) :
    cut '*' cs = ⟨.mark .star, ['*'], cs⟩ := by
  simp [cut, isBlank, plainMark?, Quote.ofChar?, Char.isDigit, noName]

/-- The scanner takes the longest mark, unless a star starts a name. -/
theorem cut_mark (noName : ¬StartsRun (c :: cs)) (starts : m.spelling.toList <+: c :: cs)
    (longest : ∀ m' : Mark, m'.spelling.toList <+: c :: cs →
      m'.spelling.toList.length ≤ m.spelling.toList.length) :
    .mark m = (cut c cs).kind ∧ m.spelling.toList = (cut c cs).text := by
  rw [startsRun_iff] at noName
  rcases mark_of_prefix starts with
    ⟨spelled, found | ⟨rfl, rfl⟩ | ⟨withEqual, compound⟩⟩ | ⟨plain, more, compound, rfl, spelled⟩
  · rw [cut_plainMark? found]
    exact ⟨rfl, spelled⟩
  · rw [cut_star noName]
    exact ⟨rfl, rfl⟩
  · rw [compound.cut]
    fun_cases cutMark c m withEqual cs with
    | case1 more =>
      -- The longer mark would stand here as well.
      have both := compound.spelling.2
      have longer := longest withEqual (by rw [both]; exact ⟨more, rfl⟩)
      rw [both, spelled] at longer
      exact absurd longer (Nat.not_succ_le_self 1)
    | case2 => exact ⟨rfl, spelled⟩
  · rw [compound.cut]
    exact ⟨rfl, spelled⟩

end Form

end PipedQuery
