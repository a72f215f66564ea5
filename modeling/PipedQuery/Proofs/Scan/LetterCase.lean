import PipedQuery.Proofs.Keyword.Spelling
import PipedQuery.Proofs.Scan.Genuine
import PipedQuery.Proofs.Scan.Tiling

/-!
# Scanning and letter case

The scanner tells no letter from the lower-case one.  So it cuts a text with all letters lowered into
the lowered tokens of the text (`scan_map_toLower`), and texts that differ in nothing but letter case
have tokens that do (`forall₂_scan`).  Places count octets, lines and columns, and all of these are
the same in either case.
-/

namespace PipedQuery

/-- The lexeme with all letters lowered.  A number stays as it is, since one that was scanned has
    none. -/
def Lexeme.lower (l : Lexeme) : Lexeme :=
  if l.kind.isNumber then l else { l with text := l.text.map Char.toLower }

/-- The token with all letters lowered. -/
def Token.lower (t : Token) : Token := { t with toLexeme := t.toLexeme.lower }

@[simp] theorem Lexeme.lower_kind (l : Lexeme) : l.lower.kind = l.kind := by
  unfold lower
  split <;> rfl

theorem Lexeme.lower_of_isNumber {l : Lexeme} (number : l.kind.isNumber = true) : l.lower = l :=
  if_pos number

/-- Whether the function does not tell a letter from the lower-case one. -/
class IgnoresCase {β : Type} (f : Char → β) : Prop where
  eq : ∀ c, f c.toLower = f c

namespace IgnoresCase

variable {β : Type} {f : Char → β}

/-- Only letters are changed, so it is enough to look at ASCII characters. -/
theorem of_ascii (ascii : ∀ n < 128, f (Char.ofNat n).toLower = f (Char.ofNat n)) :
    IgnoresCase f := by
  constructor
  intro c
  rcases Keyword.toLower_eq_or c with same | ⟨letter, -⟩
  · rw [same]
  · have small : c.toNat < 128 := Nat.lt_of_not_le (Scan.isLowClass_isAlpha c letter)
    have here := ascii _ small
    rwa [Char.ofNat_toNat] at here

open Scan

instance : IgnoresCase isBlank := of_ascii (by decide)
instance : IgnoresCase isNameStart := of_ascii (by decide)
instance : IgnoresCase isNameContinue := of_ascii (by decide)
instance : IgnoresCase isDateChar := of_ascii (by decide)
instance : IgnoresCase isKeywordChar := of_ascii (by decide)
instance : IgnoresCase Char.isDigit := of_ascii (by decide)
instance : IgnoresCase plainMark? := of_ascii (by decide)
instance : IgnoresCase Quote.ofChar? := of_ascii (by decide)
instance : IgnoresCase Char.toUpper := of_ascii (by decide)
instance : IgnoresCase Char.utf8Size := of_ascii (by decide)

variable (p : Char → Bool) [ignores : IgnoresCase p] (cs : List Char)

theorem comp_toLower : p ∘ Char.toLower = p := funext ignores.eq

/-- A class that ignores letter case takes the same run in lower case. -/
theorem takeWhile_map : (cs.map Char.toLower).takeWhile p = (cs.takeWhile p).map Char.toLower := by
  rw [List.takeWhile_map, comp_toLower]

theorem dropWhile_map : (cs.map Char.toLower).dropWhile p = (cs.dropWhile p).map Char.toLower := by
  rw [List.dropWhile_map, comp_toLower]

theorem all_map : (cs.map Char.toLower).all p = cs.all p := by
  rw [List.all_map, comp_toLower]

end IgnoresCase

/-- A character becomes another one by lowering only if it is a letter. -/
theorem toLower_eq_iff {c d : Char} (sign : d.isAlpha = false) : c.toLower = d ↔ c = d := by
  rcases Keyword.toLower_eq_or c with same | ⟨letter, lowered, -⟩
  · rw [same]
  · constructor <;> rintro rfl
    · rw [lowered] at sign
      cases sign
    · rw [letter] at sign
      cases sign

/-- A character that is no letter stays as it is. -/
theorem toLower_of_sign {d : Char} (sign : d.isAlpha = false) : d.toLower = d :=
  (toLower_eq_iff sign).mpr rfl

/-- A number has no letters. -/
theorem Lexeme.IsGenuine.map_toLower {next : Option TokenKind} {l : Lexeme}
    (genuine : l.IsGenuine next) (number : l.kind.isNumber = true) :
    l.text.map Char.toLower = l.text := by
  have digit {d : Char} (digit : d.isDigit = true) : d.toLower = d := by
    apply toLower_of_sign
    by_contra letter
    rw [Scan.not_isDigit_of_isAlpha (Bool.of_not_eq_false letter)] at digit
    cases digit
  have signs : ∀ d ∈ l.text.toList, d.toLower = d := by
    unfold IsGenuine at genuine
    split at genuine
    · exact fun d member => digit (genuine d member)
    · obtain ⟨whole, c, fraction, text, digits⟩ := genuine
      intro d member
      rw [text, List.mem_append, List.mem_cons] at member
      rcases member with inside | rfl | inside
      · exact digit (digits d (List.mem_append_left _ inside))
      · rfl
      · exact digit (digits d (List.mem_append_right _ inside))
    all_goals simp_all [TokenKind.isNumber]
  apply String.toList_inj.mp
  rw [String.toList_map]
  exact (List.map_congr_left signs).trans (List.map_id _)

theorem map_ofList (f : Char → Char) (cs : List Char) :
    (String.ofList cs).map f = .ofList (cs.map f) := by
  rw [← String.toList_inj, String.toList_map, String.toList_ofList, String.toList_ofList]

/-- Keywords are found in any letter case. -/
theorem ofWord?_map_toLower (word : String) :
    Keyword.ofWord? (word.map Char.toLower) = Keyword.ofWord? word := by
  have upper : (word.map Char.toLower).map Char.toUpper = word.map Char.toUpper := by
    apply String.toList_inj.mp
    simp only [String.toList_map, List.map_map]
    exact List.map_congr_left fun c _ => IgnoresCase.eq c
  rw [Keyword.ofWord?, Keyword.ofWord?, upper]

namespace Scan

open IgnoresCase

variable (c : Char) (cs run : List Char)

/-- The lexeme and the rest of the text with all letters lowered. -/
def Cut.lower (cut : Cut) : Cut :=
  ⟨cut.kind, cut.text.map Char.toLower, cut.rest.map Char.toLower⟩

theorem startsName_map_toLower : startsName (cs.map Char.toLower) = startsName cs := by
  match cs with
  | [] => rfl
  | [c] => simp [startsName, IgnoresCase.eq (f := isNameStart)]
  | c :: d :: ds =>
    have star := toLower_eq_iff (c := c) (d := '*') rfl
    by_cases found : c = '*' <;> simp [startsName, found, star, IgnoresCase.eq (f := isNameStart)]

theorem dateSuffix_map_toLower :
    dateSuffix (cs.map Char.toLower) =
      ((dateSuffix cs).1.map Char.toLower, (dateSuffix cs).2.map Char.toLower) := by
  have sign (sep : Char) : (sep.toLower = '.' || sep.toLower = '-') = (sep = '.' || sep = '-') := by
    simp only [toLower_eq_iff (d := '.') rfl, toLower_eq_iff (d := '-') rfl]
  fun_induction dateSuffix cs with
  | case1 sep c cs date groups rest found ih =>
    rw [found] at ih
    rw [List.map_cons, List.map_cons, dateSuffix, sign, IgnoresCase.eq (f := isDateChar),
      if_pos date, takeWhile_map, dropWhile_map, ih]
    simp
  | case2 sep c cs date =>
    rw [List.map_cons, List.map_cons, dateSuffix, sign, IgnoresCase.eq (f := isDateChar),
      if_neg date]
    rfl
  | case3 cs short =>
    rcases cs with _ | ⟨sep, _ | ⟨c, cs⟩⟩
    · simp [dateSuffix]
    · simp [dateSuffix]
    · exact absurd rfl (short sep c cs)

theorem clusterSuffix_map_toLower :
    clusterSuffix (run.map Char.toLower) (cs.map Char.toLower) =
      ((clusterSuffix run cs).1.map Char.toLower, (clusterSuffix run cs).2.map Char.toLower) := by
  have first : ((run.map Char.toLower).head? != some '@') = (run.head? != some '@') := by
    cases run with
    | nil => rfl
    | cons c cs => simp [bne, toLower_eq_iff (c := c) (d := '@') rfl]
  have colon : Char.toLower ':' = ':' := rfl
  fun_cases clusterSuffix run cs with
  | case1 c cs starts =>
    rw [List.map_cons, List.map_cons, colon, clusterSuffix, first, ← List.map_cons,
      startsName_map_toLower, if_pos starts, takeWhile_map, dropWhile_map]
    rfl
  | case2 c cs starts =>
    rw [List.map_cons, List.map_cons, colon, clusterSuffix, first, ← List.map_cons,
      startsName_map_toLower, if_neg starts]
    rfl
  | case3 cs other =>
    rcases cs with _ | ⟨c, _ | ⟨d, ds⟩⟩
    · rfl
    · simp [clusterSuffix]
    · have plain : c ≠ ':' := fun same => other d ds (by rw [same])
      simp [clusterSuffix, plain, toLower_eq_iff (c := c) (d := ':') rfl]

/-- The kind of a run does not depend on its letter case. -/
theorem nameKind_map_toLower : nameKind (run.map Char.toLower) = nameKind run := by
  rw [nameKind, nameKind, all_map, ← map_ofList, ofWord?_map_toLower]

/-- A name is cut at the same place in lower case. -/
theorem cutName_map_toLower : cutName c.toLower (cs.map Char.toLower) = (cutName c cs).lower := by
  simp only [cutName, Cut.lower, takeWhile_map, dropWhile_map, ← List.map_cons,
    clusterSuffix_map_toLower, dateSuffix_map_toLower, nameKind_map_toLower, List.isEmpty_map]
  simp only [List.map_cons, List.map_append]

theorem cutNumber_map_toLower :
    cutNumber c.toLower (cs.map Char.toLower) = (cutNumber c cs).lower := by
  simp only [cutNumber, takeWhile_map, dropWhile_map]
  rcases cs.dropWhile Char.isDigit with _ | ⟨e, _ | ⟨d, ds⟩⟩
  · rfl
  · simp [Cut.lower]
  · have sign := toLower_eq_iff (c := e) (d := '.') rfl
    by_cases point : e = '.'
    · by_cases digit : d.isDigit = true <;>
        simp [Cut.lower, point, digit, IgnoresCase.eq (f := Char.isDigit), takeWhile_map,
          dropWhile_map, toLower_of_sign (d := '.') rfl]
    · simp [Cut.lower, point, sign]

theorem cutMark_map_toLower (plain withEqual : Mark) :
    cutMark c.toLower plain withEqual (cs.map Char.toLower) =
      (cutMark c plain withEqual cs).lower := by
  cases cs with
  | nil => rfl
  | cons d ds =>
    have sign := toLower_eq_iff (c := d) (d := '=') rfl
    by_cases equal : d = '='
    · subst equal
      rfl
    · simp [cutMark, equal, sign, Cut.lower]

/-- A quotation ends at the same place in lower case. -/
theorem extent_map_toLower (q : Quote) :
    q.extent (cs.map Char.toLower) =
      ((q.extent cs).1.map Char.toLower, (q.extent cs).2.map Char.toLower) := by
  have quote (c : Char) : c.toLower = q.char ↔ c = q.char := toLower_eq_iff (by cases q <;> rfl)
  have escape {c : Char} (other : c ≠ '\\') : c.toLower ≠ '\\' :=
    fun same => other ((toLower_eq_iff rfl).mp same)
  fun_induction Quote.extent q cs with
  | case1 | case2 => rfl
  | case3 c cs body rest found ih =>
    rw [found] at ih
    have backslash : Char.toLower '\\' = '\\' := rfl
    rw [List.map_cons, List.map_cons, backslash, Quote.extent, ih]
    simp [backslash]
  | case4 c other =>
    rw [List.map_cons, List.map_nil, Quote.extent]
    exact escape other
  | case5 cs body rest found other ih =>
    rw [found] at ih
    rw [List.map_cons, List.map_cons, (quote q.char).mpr rfl, extent_cons_cons q other, if_pos rfl,
      if_pos rfl, ih]
    simp [(quote q.char).mpr rfl]
  | case6 d cs single other =>
    rw [List.map_cons, List.map_cons, (quote q.char).mpr rfl, extent_cons_cons q other, if_pos rfl,
      if_neg (mt (quote d).mp single)]
    simp [(quote q.char).mpr rfl]
  | case7 c d cs other inside body rest found ih =>
    rw [found] at ih
    rw [List.map_cons, List.map_cons, extent_cons_cons q (escape other),
      if_neg (mt (quote c).mp inside), ← List.map_cons, ih]
    rfl

/-- Lowering all letters of a text lowers those of the lexeme that is cut off, and of the rest. -/
theorem cut_map_toLower : cut c.toLower (cs.map Char.toLower) = (cut c cs).lower := by
  have other {d : Char} (sign : d.isAlpha = false) := toLower_eq_iff (c := c) sign
  have starts := startsName_map_toLower (c :: cs)
  rw [List.map_cons] at starts
  simp only [cut, IgnoresCase.eq (f := isBlank), IgnoresCase.eq (f := plainMark?),
    IgnoresCase.eq (f := Quote.ofChar?), IgnoresCase.eq (f := Char.isDigit),
    other (d := '!') rfl, other (d := '<') rfl, other (d := '>') rfl, other (d := '*') rfl, starts,
    takeWhile_map, dropWhile_map, cutMark_map_toLower, extent_map_toLower, cutNumber_map_toLower,
    cutName_map_toLower]
  repeat' split
  all_goals rfl

/-- A number that was cut off has no letter to be lowered. -/
theorem lower_lexeme_cut : (cut c cs).lexeme.lower = (cut c cs).lower.lexeme := by
  have lowered : (cut c cs).lower.lexeme =
      { (cut c cs).lexeme with text := (cut c cs).lexeme.text.map Char.toLower } :=
    congrArg (Lexeme.mk _) (map_ofList _ _).symm
  rw [lowered, Lexeme.lower]
  split
  · next number => rw [(isGenuine_cut c cs).map_toLower number]
  · rfl

end Scan

namespace Position

/-- A text in lower case ends at the same place. -/
theorem past_map_toLower (p : Position) (cs : List Char) :
    p.past (cs.map Char.toLower) = p.past cs := by
  induction cs generalizing p with
  | nil => rfl
  | cons c cs ih =>
    have here : p.next c.toLower = p.next c := by
      simp only [next, toLower_eq_iff (d := '\n') rfl, IgnoresCase.eq (f := Char.utf8Size)]
    rw [List.map_cons, past_cons, past_cons, here, ih]

end Position

/-- A text in lower case has the tokens of the text, in lower case. -/
theorem Scanner.tokens_map_toLower (cs : List Char) (place : Position) :
    tokens ⟨cs.map Char.toLower, place⟩ = (tokens ⟨cs, place⟩).map Token.lower := by
  match cs with
  | [] => rw [List.map_nil, tokens_nil, List.map_nil]
  | c :: cs =>
    have shorter := Scan.cut_rest_length_le c cs
    have others := tokens_map_toLower (Scan.cut c cs).rest (place.past (Scan.cut c cs).text)
    have first :
        Token.lower ⟨(Scan.cut c cs).lexeme, place⟩ = ⟨(Scan.cut c cs).lower.lexeme, place⟩ :=
      congrArg (Token.mk · place) (Scan.lower_lexeme_cut c cs)
    rw [List.map_cons, tokens_cons, tokens_cons, Scan.cut_map_toLower, List.map_cons, ← others]
    simp only [Scan.Cut.lower, Position.past_map_toLower]
    exact congrArg (· :: _) first.symm
termination_by cs.length

/-- Lowering all letters of a text lowers those of its tokens and changes nothing else. -/
theorem scan_map_toLower (text : String) :
    scan (text.map Char.toLower) = (scan text).map Token.lower := by
  rw [scan, Scanner.ofText, String.toList_map]
  exact Scanner.tokens_map_toLower text.toList .origin

theorem Lexeme.map_toLower_lower (l : Lexeme) :
    l.lower.text.map Char.toLower = l.text.map Char.toLower := by
  unfold lower
  split
  · rfl
  · exact Keyword.map_toLower_map_toLower l.text

theorem Lexeme.utf8ByteSize_lower (l : Lexeme) :
    l.lower.text.utf8ByteSize = l.text.utf8ByteSize := by
  have offset := congrArg Position.offset (Position.past_map_toLower .origin l.text.toList)
  rw [Position.past_offset, Position.past_offset, ← String.toList_map, String.ofList_toList,
    String.ofList_toList] at offset
  unfold lower
  split
  · rfl
  · exact Nat.add_left_cancel offset

/-- A token takes up the same part of the text in lower case. -/
theorem Token.lower_span (t : Token) : t.lower.span = t.span :=
  congrArg (fun size => Span.mk t.place.offset (t.place.offset + size)) t.utf8ByteSize_lower

/-- Texts that differ in nothing but letter case have tokens that do. -/
theorem forall₂_scan {t u : String} (same : t.map Char.toLower = u.map Char.toLower) :
    List.Forall₂ (fun x y => x.lower = y.lower) (scan t) (scan u) := by
  have lowered : (scan t).map Token.lower = (scan u).map Token.lower := by
    rw [← scan_map_toLower, ← scan_map_toLower, same]
  rwa [← List.forall₂_eq_eq_eq, List.forall₂_map_left_iff, List.forall₂_map_right_iff] at lowered

end PipedQuery
