import PipedQuery.Proofs.Scan.Genuine
import PipedQuery.Proofs.Scan.Numbers
import PipedQuery.Proofs.Scan.Quotations

/-!
# Scanning octets

The scanner may as well move through the octets of a text and look at each as if it were a character
of its own.  Behind a backslash that way of scanning lands within a character now and then, but it
never stops there: an octet of a longer character is neither a quote nor a backslash, and goes on
with no other lexeme (`cut_octetChars`).  So both ways of scanning find the same lexemes
(`octetStep_utf8Encode`).
-/

namespace PipedQuery

namespace Scan

/-- An octet, taken for a character of its own. -/
def octetChar (b : UInt8) : Char := .ofNat b.toNat

/-- The octets of some characters, each taken for a character of its own. -/
def octetChars (cs : List Char) : List Char := (cs.flatMap String.utf8EncodeChar).map octetChar

/-- The kind of the lexeme at the start of some octets and the number of its octets, found without
    decoding any character but an unrecognized one. -/
def octetStep (octets : ByteArray) : Option (TokenKind × Nat) :=
  match octets.data.toList.map octetChar with
  | [] => none
  | c :: cs =>
    let cut := cut c cs
    if cut.kind = .unrecognized then
      some (.unrecognized, ((octets.utf8DecodeChar? 0).map Char.utf8Size).getD 1)
    else some (cut.kind, cut.text.length)

/-- Whether the character takes more than one octet, or stands for one of such a character. -/
def IsHigh (c : Char) : Prop := 128 ≤ c.toNat

instance : DecidablePred IsHigh := fun c => inferInstanceAs (Decidable (128 ≤ c.toNat))

theorem toNat_octetChar (b : UInt8) : (octetChar b).toNat = b.toNat := by
  have all : ∀ n < 256, (Char.ofNat n).toNat = n := by decide +kernel
  exact all b.toNat b.toNat_lt

/-- A character of one byte is its own octet. -/
theorem octetChars_low {c : Char} (low : ¬IsHigh c) : octetChars [c] = [c] := by
  have small : c.toNat ≤ 127 := by
    unfold IsHigh at low
    omega
  have code : String.utf8EncodeChar c = [UInt8.ofNat c.toNat] := if_pos small
  have value : (UInt8.ofNat c.toNat).toNat = c.toNat := by
    rw [UInt8.toNat_ofNat']
    omega
  simp [octetChars, code, octetChar, value]

/-- The octets of any other character are high. -/
theorem octetChars_high {c : Char} (high : IsHigh c) : ∀ d ∈ octetChars [c], IsHigh d := by
  have large : ¬c.toNat ≤ 127 := by
    unfold IsHigh at high
    omega
  have octets : ∀ b ∈ String.utf8EncodeChar c, 128 ≤ b.toNat := by
    unfold String.utf8EncodeChar
    intro b member
    simp only [show ¬c.val.toNat ≤ 127 from large, if_false] at member
    split at member
    · simp at member
      rcases member with rfl | rfl <;> simp <;> omega
    split at member
    · simp at member
      rcases member with rfl | rfl | rfl <;> simp <;> omega
    · simp at member
      rcases member with rfl | rfl | rfl | rfl <;> simp <;> omega
  intro d member
  simp only [octetChars, List.flatMap_singleton, List.mem_map] at member
  obtain ⟨b, member, rfl⟩ := member
  rw [IsHigh, toNat_octetChar]
  exact octets b member

theorem octetChars_append (cs ds : List Char) :
    octetChars (cs ++ ds) = octetChars cs ++ octetChars ds := by
  simp [octetChars]

theorem octetChars_cons_low {c : Char} (low : ¬IsHigh c) (cs : List Char) :
    octetChars (c :: cs) = c :: octetChars cs := by
  rw [← List.singleton_append, octetChars_append, octetChars_low low]
  rfl

/-- The octets of a longer character are all high. -/
theorem octetChars_cons_high {c : Char} (high : IsHigh c) (cs : List Char) :
    ∃ d ds, octetChars (c :: cs) = d :: (ds ++ octetChars cs) ∧ IsHigh d ∧ (∀ e ∈ ds, IsHigh e) ∧
      octetChars [c] = d :: ds := by
  have all := octetChars_high high
  cases octets : octetChars [c] with
  | nil =>
    have size := congrArg List.length octets
    have := c.utf8Size_pos
    simp only [octetChars, List.flatMap_singleton, List.length_map, String.length_utf8EncodeChar,
      List.length_nil] at size
    omega
  | cons d ds =>
    rw [octets] at all
    refine ⟨d, ds, ?_, all d (by simp), fun e member => all e (by simp [member]), rfl⟩
    rw [← List.singleton_append, octetChars_append, octets, List.cons_append]

/-- A low octet is a character of the text. -/
theorem exists_of_octetChars_eq_cons {cs ds : List Char} {d : Char} (low : ¬IsHigh d)
    (octets : octetChars cs = d :: ds) : ∃ cs', cs = d :: cs' ∧ ds = octetChars cs' := by
  cases cs with
  | nil => cases octets
  | cons c cs =>
    by_cases high : IsHigh c
    · obtain ⟨e, es, found, highE, -⟩ := octetChars_cons_high high cs
      rw [found] at octets
      obtain ⟨rfl, -⟩ := List.cons.inj octets
      exact absurd highE low
    · rw [octetChars_cons_low high] at octets
      obtain ⟨rfl, rfl⟩ := List.cons.inj octets
      exact ⟨cs, rfl, rfl⟩

/-- There are as many octets as the text has bytes. -/
theorem length_octetChars (cs : List Char) :
    (octetChars cs).length = (String.ofList cs).utf8ByteSize := by
  induction cs with
  | nil => rfl
  | cons c cs ih =>
    rw [← List.singleton_append, octetChars_append, List.length_append, ih]
    simp [octetChars]

section Classes

theorem isDigit_iff {c : Char} : c.isDigit = true ↔ 48 ≤ c.toNat ∧ c.toNat ≤ 57 :=
  Char.isDigit_iff_toNat

theorem isUpper_iff {c : Char} : c.isUpper = true ↔ 65 ≤ c.toNat ∧ c.toNat ≤ 90 :=
  decide_eq_true_iff

theorem isLower_iff {c : Char} : c.isLower = true ↔ 97 ≤ c.toNat ∧ c.toNat ≤ 122 :=
  (Bool.and_eq_true_iff).trans (and_congr decide_eq_true_iff decide_eq_true_iff)

/-- Whether the class holds no high characters. -/
def IsLowClass (p : Char → Bool) : Prop := ∀ c, p c = true → ¬IsHigh c

theorem isLowClass_isDigit : IsLowClass Char.isDigit := by
  intro c member high
  have bounds := isDigit_iff.mp member
  unfold IsHigh at high
  omega

theorem isLowClass_isAlpha : IsLowClass Char.isAlpha := by
  intro c member high
  unfold IsHigh at high
  rcases Bool.or_eq_true _ _ ▸ member with upper | lower
  · have bounds := isUpper_iff.mp upper
    omega
  · have bounds := isLower_iff.mp lower
    omega

/-- A single low character is a low class. -/
theorem isLowClass_eq {d : Char} (low : ¬IsHigh d) : IsLowClass (· = d) := by
  intro c member
  rw [of_decide_eq_true member]
  exact low

/-- Two low classes together are one. -/
theorem IsLowClass.or {p q : Char → Bool} (first : IsLowClass p) (second : IsLowClass q) :
    IsLowClass fun c => p c || q c := by
  intro c member
  rcases Bool.or_eq_true _ _ ▸ member with member | member
  · exact first c member
  · exact second c member

theorem isLowClass_isBlank : IsLowClass isBlank :=
  (((isLowClass_eq (by decide)).or (isLowClass_eq (by decide))).or
    (isLowClass_eq (by decide))).or (isLowClass_eq (by decide))

theorem isLowClass_isNameStart : IsLowClass isNameStart :=
  (isLowClass_isAlpha.or (isLowClass_eq (by decide))).or (isLowClass_eq (by decide))

theorem isLowClass_isNameContinue : IsLowClass isNameContinue :=
  (((isLowClass_isAlpha.or isLowClass_isDigit).or (isLowClass_eq (by decide))).or
    (isLowClass_eq (by decide))).or (isLowClass_eq (by decide))

theorem isLowClass_isDateChar : IsLowClass isDateChar :=
  isLowClass_isDigit.or (isLowClass_eq (by decide))

variable {p : Char → Bool} (lowClass : IsLowClass p)

include lowClass in
/-- A low class takes the same characters from the octets as from the text. -/
theorem takeWhile_octetChars (cs : List Char) :
    (octetChars cs).takeWhile p = cs.takeWhile p := by
  induction cs with
  | nil => rfl
  | cons c cs ih =>
    by_cases high : IsHigh c
    · obtain ⟨d, ds, octets, highD, -⟩ := octetChars_cons_high high cs
      rw [octets, List.takeWhile_cons_of_neg (fun member => lowClass d member highD),
        List.takeWhile_cons_of_neg (fun member => lowClass c member high)]
    · rw [octetChars_cons_low high, List.takeWhile_cons, List.takeWhile_cons, ih]

include lowClass in
/-- What a low class leaves of the octets are the octets of what it leaves of the text. -/
theorem dropWhile_octetChars (cs : List Char) :
    (octetChars cs).dropWhile p = octetChars (cs.dropWhile p) := by
  induction cs with
  | nil => rfl
  | cons c cs ih =>
    by_cases high : IsHigh c
    · obtain ⟨d, ds, octets, highD, -⟩ := octetChars_cons_high high cs
      rw [octets, List.dropWhile_cons_of_neg (fun member => lowClass d member highD),
        List.dropWhile_cons_of_neg (fun member => lowClass c member high), octets]
    · rw [octetChars_cons_low high, List.dropWhile_cons, List.dropWhile_cons, ih]
      split
      · rfl
      · rw [octetChars_cons_low high]

end Classes

section Words

/-- Whether a name starts at the front of the text, said without the order of the tests. -/
theorem startsName_iff {cs : List Char} :
    startsName cs = true ↔
      (∃ c more, cs = c :: more ∧ isNameStart c = true) ∨
        ∃ c more, cs = '*' :: c :: more ∧ isNameStart c = true := by
  constructor
  · intro starts
    unfold startsName at starts
    split at starts
    · next c more => exact .inr ⟨c, more, rfl, starts⟩
    · next c more _ => exact .inl ⟨c, more, rfl, starts⟩
    · cases starts
  · rintro (⟨c, more, rfl, start⟩ | ⟨c, more, rfl, start⟩)
    · unfold startsName
      split
      · next same =>
        obtain ⟨rfl, -⟩ := List.cons.inj same
        exact absurd start (by decide)
      · next same =>
        obtain ⟨rfl, -⟩ := List.cons.inj same
        exact start
      · next none => cases none
    · exact start

theorem startsName_octetChars (cs : List Char) : startsName (octetChars cs) = startsName cs := by
  apply Bool.eq_iff_iff.mpr
  rw [startsName_iff, startsName_iff]
  constructor
  · rintro (⟨c, more, octets, start⟩ | ⟨c, more, octets, start⟩)
    · obtain ⟨more, rfl, -⟩ := exists_of_octetChars_eq_cons (isLowClass_isNameStart c start) octets
      exact .inl ⟨c, more, rfl, start⟩
    · obtain ⟨behind, rfl, octetsBehind⟩ := exists_of_octetChars_eq_cons (by decide) octets
      obtain ⟨more, rfl, -⟩ :=
        exists_of_octetChars_eq_cons (isLowClass_isNameStart c start) octetsBehind.symm
      exact .inr ⟨c, more, rfl, start⟩
  · rintro (⟨c, more, rfl, start⟩ | ⟨c, more, rfl, start⟩)
    · exact .inl ⟨c, _, octetChars_cons_low (isLowClass_isNameStart c start) more, start⟩
    · refine .inr ⟨c, octetChars more, ?_, start⟩
      rw [octetChars_cons_low (by decide), octetChars_cons_low (isLowClass_isNameStart c start)]

/-- Whether a date group starts at the front of the text. -/
def StartsDate (cs : List Char) : Prop :=
  ∃ sep c more, cs = sep :: c :: more ∧ ((sep = '.' || sep = '-') && isDateChar c) = true

/-- A date that starts in the octets starts in the text. -/
theorem startsDate_octetChars {cs : List Char} (starts : StartsDate (octetChars cs)) :
    StartsDate cs := by
  obtain ⟨sep, c, more, octets, date⟩ := starts
  obtain ⟨separator, digit⟩ := Bool.and_eq_true _ _ ▸ date
  have low : ¬IsHigh sep :=
    ((isLowClass_eq (by decide)).or (isLowClass_eq (by decide))) sep separator
  obtain ⟨behind, rfl, octetsBehind⟩ := exists_of_octetChars_eq_cons low octets
  obtain ⟨more, rfl, -⟩ :=
    exists_of_octetChars_eq_cons (isLowClass_isDateChar c digit) octetsBehind.symm
  exact ⟨sep, c, more, rfl, date⟩

theorem dateSuffix_of_not_startsDate {cs : List Char} (none : ¬StartsDate cs) :
    dateSuffix cs = ([], cs) := by
  fun_cases dateSuffix cs with
  | case1 sep c cs date => exact absurd ⟨sep, c, cs, rfl, date⟩ none
  | case2 => rfl
  | case3 => rfl

/-- A date suffix is cut at the same place in the octets. -/
theorem dateSuffix_octetChars (cs : List Char) :
    dateSuffix (octetChars cs) = ((dateSuffix cs).1, octetChars (dateSuffix cs).2) := by
  fun_induction dateSuffix cs with
  | case1 sep c cs date groups rest found ih =>
    obtain ⟨separator, digit⟩ := Bool.and_eq_true _ _ ▸ date
    have low : ¬IsHigh sep :=
      ((isLowClass_eq (by decide)).or (isLowClass_eq (by decide))) sep separator
    rw [octetChars_cons_low low, octetChars_cons_low (isLowClass_isDateChar c digit), dateSuffix,
      if_pos date, takeWhile_octetChars isLowClass_isDateChar,
      dropWhile_octetChars isLowClass_isDateChar, ih, found]
  | case2 sep c cs date =>
    apply dateSuffix_of_not_startsDate
    intro starts
    obtain ⟨_, _, _, same, found⟩ := startsDate_octetChars starts
    cases same
    exact date found
  | case3 cs short =>
    apply dateSuffix_of_not_startsDate
    intro starts
    obtain ⟨sep, c, more, same, -⟩ := startsDate_octetChars starts
    exact short sep c more same

theorem clusterSuffix_of_not {run cs : List Char}
    (none : ¬∃ more, cs = ':' :: more ∧ (run.head? != some '@' && startsName more) = true) :
    clusterSuffix run cs = ([], cs) := by
  fun_cases clusterSuffix run cs with
  | case1 c cs starts => exact absurd ⟨c :: cs, rfl, starts⟩ none
  | case2 => rfl
  | case3 => rfl

/-- So is the cluster of a name. -/
theorem clusterSuffix_octetChars (run cs : List Char) :
    clusterSuffix run (octetChars cs) =
      ((clusterSuffix run cs).1, octetChars (clusterSuffix run cs).2) := by
  by_cases starts : ∃ more, cs = ':' :: more ∧ (run.head? != some '@' && startsName more) = true
  · obtain ⟨more, rfl, starts⟩ := starts
    cases more with
    | nil => simp [startsName] at starts
    | cons c cs =>
      -- Both a star and a proper start of a name are low, so the text goes on with the same one.
      have low : ¬IsHigh c := by
        rcases isNameStart_or_star (Bool.and_eq_true _ _ ▸ starts).2 with start | rfl
        · exact isLowClass_isNameStart c start
        · decide
      have octetsStart : (run.head? != some '@' && startsName (c :: octetChars cs)) = true := by
        rw [← octetChars_cons_low low, startsName_octetChars]
        exact starts
      rw [octetChars_cons_low (by decide), octetChars_cons_low low, clusterSuffix, clusterSuffix,
        if_pos octetsStart, if_pos starts, takeWhile_octetChars isLowClass_isNameContinue,
        dropWhile_octetChars isLowClass_isNameContinue]
  · rw [clusterSuffix_of_not starts]
    apply clusterSuffix_of_not
    rintro ⟨more, octets, octetsStart⟩
    obtain ⟨more, rfl, rfl⟩ := exists_of_octetChars_eq_cons (by decide) octets
    rw [startsName_octetChars] at octetsStart
    exact starts ⟨more, rfl, octetsStart⟩

end Words

section Quotations

/-- High characters before a text are passed one by one. -/
theorem extent_high (q : Quote) {ds : List Char} (high : ∀ d ∈ ds, IsHigh d) (cs : List Char) :
    (q.extent (ds ++ cs)).2 = (q.extent cs).2 := by
  induction ds with
  | nil => rfl
  | cons d ds ih =>
    have here := high d (by simp)
    have escape : d ≠ '\\' := fun same => absurd (same ▸ here) (by decide)
    have other : d ≠ q.char := fun same => absurd (same ▸ here) (by cases q <;> decide)
    rw [List.cons_append, ← ih fun e member => high e (by simp [member])]
    by_cases last : ds ++ cs = []
    · rw [last]
      simp [Quote.extent]
    · rw [extent_cons_of_ne q escape other last]

/-- A quotation ends at the same place in the octets, for no octet of a high character is a
    quote. -/
theorem extent_octetChars (q : Quote) (cs : List Char) :
    (q.extent (octetChars cs)).2 = octetChars (q.extent cs).2 := by
  have lowQuote : ¬IsHigh q.char := by cases q <;> decide
  fun_induction Quote.extent q cs with
  | case1 => rfl
  | case2 =>
    rw [octetChars_low (by decide)]
    rfl
  | case3 c cs body rest found ih =>
    rw [found] at ih
    rw [octetChars_cons_low (by decide)]
    by_cases high : IsHigh c
    · -- The backslash takes the first octet of the character only.
      obtain ⟨d, ds, octets, -, others, -⟩ := octetChars_cons_high high cs
      rw [octets]
      simp only [Quote.extent]
      rw [extent_high q others, ih]
    · rw [octetChars_cons_low high]
      simp only [Quote.extent]
      exact ih
  | case4 c escape =>
    by_cases high : IsHigh c
    · have whole := extent_high q (octetChars_high high) []
      rw [List.append_nil] at whole
      rw [whole]
      rfl
    · rw [octetChars_low high, Quote.extent]
      · rfl
      · exact escape
  | case5 cs body rest found escape ih =>
    rw [found] at ih
    rw [octetChars_cons_low lowQuote, octetChars_cons_low lowQuote, extent_cons_cons q escape,
      if_pos rfl, if_pos rfl]
    exact ih
  | case6 d cs other escape =>
    rw [octetChars_cons_low lowQuote]
    by_cases high : IsHigh d
    · obtain ⟨e, es, octets, highE, -⟩ := octetChars_cons_high high cs
      have otherE : e ≠ q.char := fun same => lowQuote (same ▸ highE)
      rw [octets, extent_cons_cons q escape, if_pos rfl, if_neg otherE]
    · rw [octetChars_cons_low high, extent_cons_cons q escape, if_pos rfl, if_neg other]
  | case7 c d cs escape other body rest found ih =>
    rw [found] at ih
    by_cases high : IsHigh c
    · rw [← List.singleton_append, octetChars_append, extent_high q (octetChars_high high)]
      exact ih
    · have more : octetChars (d :: cs) ≠ [] := by
        intro none
        have size := length_octetChars (d :: cs)
        have := d.utf8Size_pos
        rw [none, String.ofList_cons, String.utf8ByteSize_append, String.utf8ByteSize_singleton,
          List.length_nil] at size
        omega
      rw [octetChars_cons_low high, extent_cons_of_ne q escape other more]
      exact ih

end Quotations

section Cuts

theorem plainMark?_high {c : Char} (high : IsHigh c) : plainMark? c = none := by
  unfold plainMark?
  split
  all_goals first | rfl | exact absurd high (by decide)

theorem ofChar?_high {c : Char} (high : IsHigh c) : Quote.ofChar? c = none := by
  cases found : Quote.ofChar? c with
  | none => rfl
  | some q =>
    unfold Quote.ofChar? at found
    split at found
    · next same => exact absurd (same ▸ high) (by decide)
    split at found
    · next same => exact absurd (same ▸ high) (by decide)
    split at found
    · next same => exact absurd (same ▸ high) (by decide)
    · cases found

/-- A high character goes with no other. -/
theorem cut_high {c : Char} (high : IsHigh c) (cs : List Char) :
    cut c cs = ⟨.unrecognized, [c], cs⟩ := by
  have blank : isBlank c ≠ true := fun member => isLowClass_isBlank c member high
  have digit : c.isDigit ≠ true := fun member => isLowClass_isDigit c member high
  have notStar : c ≠ '*' := fun same => absurd (same ▸ high) (by decide)
  have start : startsName (c :: cs) ≠ true := by
    intro starts
    rcases startsName_iff.mp starts with ⟨_, _, same, start⟩ | ⟨_, _, same, -⟩
    · cases same
      exact isLowClass_isNameStart c start high
    · exact notStar (List.cons.inj same).1
  have mark : ∀ d, ¬IsHigh d → c ≠ d := fun d low same => low (same ▸ high)
  rw [cut, if_neg blank]
  simp only [plainMark?_high high, ofChar?_high high, if_neg (mark '!' (by decide)),
    if_neg (mark '<' (by decide)), if_neg (mark '>' (by decide)), if_neg digit, if_neg start,
    if_neg notStar]

/-- A cut of the octets is that of the text if it is of the same kind and leaves the octets of the
    same rest. -/
def Cut.IsOctetsOf (octets cut : Cut) : Prop :=
  octets.kind = cut.kind ∧ octets.rest = octetChars cut.rest

/-- A mark is cut from the octets as from the text. -/
theorem cutMark_octetChars (c : Char) (plain withEqual : Mark) (cs : List Char) :
    (cutMark c plain withEqual (octetChars cs)).IsOctetsOf (cutMark c plain withEqual cs) := by
  by_cases equal : ∃ more, cs = '=' :: more
  · obtain ⟨more, rfl⟩ := equal
    rw [octetChars_cons_low (by decide)]
    exact ⟨rfl, rfl⟩
  · have apart : ∀ ds, (¬∃ more, ds = '=' :: more) →
        cutMark c plain withEqual ds = ⟨.mark plain, [c], ds⟩ := by
      intro ds other
      fun_cases cutMark c plain withEqual ds with
      | case1 more => exact absurd ⟨more, rfl⟩ other
      | case2 => rfl
    rw [apart cs equal, apart (octetChars cs)]
    · exact ⟨rfl, rfl⟩
    · rintro ⟨more, octets⟩
      obtain ⟨behind, rfl, -⟩ := exists_of_octetChars_eq_cons (by decide) octets
      exact equal ⟨behind, rfl⟩

/-- A number is cut from the octets as from the text. -/
theorem cutNumber_octetChars (c : Char) (cs : List Char) :
    (cutNumber c (octetChars cs)).IsOctetsOf (cutNumber c cs) := by
  unfold cutNumber
  rw [takeWhile_octetChars isLowClass_isDigit, dropWhile_octetChars isLowClass_isDigit]
  generalize cs.dropWhile Char.isDigit = behind
  by_cases point : ∃ d ds, behind = '.' :: d :: ds ∧ d.isDigit = true
  · obtain ⟨d, ds, rfl, digit⟩ := point
    rw [octetChars_cons_low (by decide), octetChars_cons_low (isLowClass_isDigit d digit)]
    simp only [if_pos digit]
    exact ⟨rfl, dropWhile_octetChars isLowClass_isDigit ds⟩
  · split
    · next d ds octets =>
      split
      · next digit =>
        obtain ⟨more, rfl, others⟩ := exists_of_octetChars_eq_cons (by decide) octets
        obtain ⟨more, rfl, -⟩ :=
          exists_of_octetChars_eq_cons (isLowClass_isDigit d digit) others.symm
        exact absurd ⟨d, more, rfl, digit⟩ point
      · split
        · next e es =>
          have other : ¬e.isDigit = true := fun digit => point ⟨e, es, rfl, digit⟩
          rw [if_neg other]
          exact ⟨rfl, octets.symm⟩
        · exact ⟨rfl, octets.symm⟩
    · split
      · next e es _ =>
        have other : ¬e.isDigit = true := fun digit => point ⟨e, es, rfl, digit⟩
        rw [if_neg other]
        exact ⟨rfl, rfl⟩
      · exact ⟨rfl, rfl⟩

/-- A name is cut from the octets as from the text. -/
theorem cutName_octetChars (c : Char) (cs : List Char) :
    (cutName c (octetChars cs)).IsOctetsOf (cutName c cs) := by
  simp only [Cut.IsOctetsOf, cutName, takeWhile_octetChars isLowClass_isNameContinue,
    dropWhile_octetChars isLowClass_isNameContinue, clusterSuffix_octetChars,
    dateSuffix_octetChars, and_self]

/-- The octets of a text are cut where the text is. -/
theorem cut_octetChars {c : Char} (low : ¬IsHigh c) (cs : List Char) :
    (cut c (octetChars cs)).IsOctetsOf (cut c cs) := by
  have start : startsName (c :: octetChars cs) = startsName (c :: cs) := by
    rw [← octetChars_cons_low low, startsName_octetChars]
  unfold cut
  rw [start]
  split
  · exact ⟨rfl, dropWhile_octetChars isLowClass_isBlank cs⟩
  split
  · exact ⟨rfl, rfl⟩
  split
  · exact cutMark_octetChars ..
  split
  · exact cutMark_octetChars ..
  split
  · exact cutMark_octetChars ..
  split
  · next q _ => exact ⟨rfl, extent_octetChars q cs⟩
  split
  · exact cutNumber_octetChars c cs
  split
  · exact cutName_octetChars c cs
  split
  · exact ⟨rfl, rfl⟩
  · exact ⟨rfl, rfl⟩

theorem cutMark_kind_ne (c : Char) (plain withEqual : Mark) (cs : List Char) :
    (cutMark c plain withEqual cs).kind ≠ .unrecognized := by
  fun_cases cutMark c plain withEqual cs
  all_goals exact TokenKind.noConfusion

theorem cutNumber_kind_ne (c : Char) (cs : List Char) :
    (cutNumber c cs).kind ≠ .unrecognized := by
  fun_cases cutNumber c cs
  all_goals exact TokenKind.noConfusion

theorem cutName_kind_ne_unrecognized (c : Char) (cs : List Char) :
    (cutName c cs).kind ≠ .unrecognized := by
  intro kind
  have channel := cutName_channel c cs
  rw [kind] at channel
  cases channel

/-- What starts no lexeme is a single character. -/
theorem cut_text_of_unrecognized (c : Char) (cs : List Char) :
    (cut c cs).kind = .unrecognized → (cut c cs).text = [c] := by
  unfold cut
  split
  · exact TokenKind.noConfusion
  split
  · exact TokenKind.noConfusion
  split
  · exact fun kind => absurd kind (cutMark_kind_ne c _ _ cs)
  split
  · exact fun kind => absurd kind (cutMark_kind_ne c _ _ cs)
  split
  · exact fun kind => absurd kind (cutMark_kind_ne c _ _ cs)
  split
  · exact TokenKind.noConfusion
  split
  · exact fun kind => absurd kind (cutNumber_kind_ne c cs)
  split
  · exact fun kind => absurd kind (cutName_kind_ne_unrecognized c cs)
  split
  · exact TokenKind.noConfusion
  · exact fun _ => rfl

end Cuts

/-- The lexeme at the start of the octets of a text is that at the start of the text. -/
theorem octetStep_utf8Encode (c : Char) (cs : List Char) :
    octetStep (c :: cs).utf8Encode =
      some ((cut c cs).kind, (String.ofList (cut c cs).text).utf8ByteSize) := by
  have decoded : (c :: cs).utf8Encode.utf8DecodeChar? 0 = some c :=
    List.utf8DecodeChar?_utf8Encode_cons
  have octets : (c :: cs).utf8Encode.data.toList.map octetChar = octetChars (c :: cs) := by
    rw [List.utf8Encode, List.data_toByteArray]
    rfl
  have alone : (String.ofList [c]).utf8ByteSize = c.utf8Size := String.utf8ByteSize_singleton
  unfold octetStep
  rw [octets, decoded]
  by_cases high : IsHigh c
  · obtain ⟨d, ds, found, highD, -⟩ := octetChars_cons_high high cs
    simp only [found, cut_high high, cut_high highD, if_true, Option.map_some, Option.getD_some,
      alone]
  · obtain ⟨kind, rest⟩ := cut_octetChars high cs
    rw [octetChars_cons_low high]
    simp only [kind]
    split
    · next unrecognized =>
      rw [cut_text_of_unrecognized c cs unrecognized, unrecognized, alone]
      rfl
    · have whole := cut_text_append_rest c (octetChars cs)
      rw [rest, ← octetChars_cons_low high, ← cut_text_append_rest c cs, octetChars_append] at whole
      rw [List.append_cancel_right whole, length_octetChars]

end Scan

end PipedQuery
