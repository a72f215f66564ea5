import PipedQuery.Keyword
import PipedQuery.Token.Scan
import Mathlib.Data.List.Nodup

/-!
# Spellings of keywords

No two keywords are spelled alike, and the lower-case spelling of a keyword scans as that keyword
again (`nameKind_lowercase`).
-/

namespace PipedQuery

namespace Keyword

/-- The characters that keywords are spelled with. -/
def isSpellingChar (c : Char) : Bool := c.isUpper || c.isDigit || c = '_'

/-- The bytes of the spelling as the digits of one number. -/
def code (k : Keyword) : Nat :=
  k.spelling.toByteArray.data.toList.foldl (fun n b => n * 256 + b.toNat) 0

theorem mem_all (k : Keyword) : k ∈ all := by
  have place : all[k.ctorIdx]? = some k := by cases k <;> rfl
  exact List.mem_of_getElem? place

/-- Whether no number is listed twice.  This is decided faster than `List.Nodup`. -/
def distinct : List Nat → Bool
  | [] => true
  | n :: ns => ns.all (fun m => !Nat.beq n m) && distinct ns

theorem nodup_of_distinct {ns : List Nat} (h : distinct ns = true) : ns.Nodup := by
  induction ns with
  | nil => exact List.nodup_nil
  | cons n ns ih =>
    simp only [distinct, Bool.and_eq_true, List.all_eq_true] at h
    refine List.nodup_cons.mpr ⟨fun member => ?_, ih h.2⟩
    simpa using h.1 n member

theorem nodup_codes : (all.map code).Nodup := nodup_of_distinct (by decide +kernel)

theorem all_spellings :
    (all.all fun k => match k.spelling.toList with
      | [] => false
      | letter :: more => letter.isUpper && more.all isSpellingChar) = true := by
  decide +kernel

theorem eq_of_spelling_eq {j k : Keyword} (same : j.spelling = k.spelling) : j = k := by
  have codes : j.code = k.code := by rw [code, code, same]
  exact List.inj_on_of_nodup_map nodup_codes (mem_all j) (mem_all k) codes

/-- A spelling is not empty, and it starts with a letter. -/
theorem exists_spelling (k : Keyword) :
    ∃ c cs, k.spelling.toList = c :: cs ∧ c.isUpper = true ∧ ∀ d ∈ cs, isSpellingChar d = true := by
  have found := List.all_eq_true.mp all_spellings k (mem_all k)
  cases spelled : k.spelling.toList with
  | nil => simp [spelled] at found
  | cons c cs =>
    simp only [spelled, Bool.and_eq_true, List.all_eq_true] at found
    exact ⟨c, cs, rfl, found⟩

theorem isSpellingChar_of_mem {k : Keyword} {c : Char} (member : c ∈ k.spelling.toList) :
    isSpellingChar c = true := by
  obtain ⟨d, ds, spelled, upper, others⟩ := k.exists_spelling
  rw [spelled] at member
  rcases List.mem_cons.mp member with rfl | member
  · simp [isSpellingChar, upper]
  · exact others c member

theorem toNat_of_isSpellingChar {c : Char} (h : isSpellingChar c = true) : c.toNat < 96 := by
  simp only [isSpellingChar, Bool.or_eq_true, decide_eq_true_eq] at h
  rcases h with (upper | digit) | rfl
  · have bounds : c.val ≥ 'A'.val ∧ c.val ≤ 'Z'.val := of_decide_eq_true upper
    have le : c.toNat ≤ 90 := bounds.2
    omega
  · have le : c.toNat ≤ 57 := (Char.isDigit_iff_toNat.mp digit).2
    omega
  · decide

/-- Lowering a character of a spelling gives a character of a word, and loses nothing. -/
theorem toLower_of_isSpellingChar {c : Char} (h : isSpellingChar c = true) :
    c.toLower.toUpper = c ∧ Scan.isKeywordChar c.toLower = true ∧
      (c.isUpper = true → c.toLower.isAlpha = true) := by
  have all : ∀ n < 96, isSpellingChar (Char.ofNat n) = true →
      (Char.ofNat n).toLower.toUpper = Char.ofNat n ∧
        Scan.isKeywordChar (Char.ofNat n).toLower = true ∧
        ((Char.ofNat n).isUpper = true → (Char.ofNat n).toLower.isAlpha = true) := by decide
  have := all c.toNat (toNat_of_isSpellingChar h)
  rw [Char.ofNat_toNat] at this
  exact this h

theorem lowercase_toList (k : Keyword) :
    k.lowercase.toList = k.spelling.toList.map Char.toLower := by
  rw [lowercase, String.toList_map]

theorem lowercase_eq {k : Keyword} {s : String}
    (same : k.spelling.toList.map Char.toLower = s.toList) : k.lowercase = s := by
  rw [← String.toList_inj, lowercase_toList, same]

theorem isKeywordChar_of_mem_lowercase {k : Keyword} {c : Char} (member : c ∈ k.lowercase.toList) :
    Scan.isKeywordChar c = true := by
  rw [lowercase_toList] at member
  obtain ⟨d, found, rfl⟩ := List.mem_map.mp member
  exact (toLower_of_isSpellingChar (isSpellingChar_of_mem found)).2.1

theorem lowercase_map_toUpper (k : Keyword) : k.lowercase.map Char.toUpper = k.spelling := by
  apply String.toList_inj.mp
  rw [String.toList_map, lowercase_toList, List.map_map]
  conv => rhs; rw [← List.map_id k.spelling.toList]
  apply List.map_congr_left
  intro c member
  exact (toLower_of_isSpellingChar (isSpellingChar_of_mem member)).1

/-- A word is a keyword if it is the spelling of one but for the letter case. -/
theorem ofWord?_eq_some {word : String} {k : Keyword} (same : word.map Char.toUpper = k.spelling) :
    ofWord? word = some k := by
  unfold ofWord?
  cases found : all.find? (fun j => j.spelling == word.map Char.toUpper) with
  | none =>
    have := List.find?_eq_none.mp found k (mem_all k)
    simp [same] at this
  | some j =>
    have spelled := List.find?_some found
    rw [same, beq_iff_eq] at spelled
    rw [eq_of_spelling_eq spelled]

theorem ofWord?_lowercase (k : Keyword) : ofWord? k.lowercase = some k :=
  ofWord?_eq_some (lowercase_map_toUpper k)

theorem eq_of_lowercase_eq {j k : Keyword} (same : j.lowercase = k.lowercase) : j = k := by
  have word := ofWord?_lowercase j
  rw [same, ofWord?_lowercase] at word
  exact (Option.some.inj word).symm

theorem toLower_toUpper (c : Char) : c.toUpper.toLower = c.toLower := by
  by_cases ascii : c.toNat < 128
  · have all : ∀ n < 128, (Char.ofNat n).toUpper.toLower = (Char.ofNat n).toLower := by decide
    rw [← Char.ofNat_toNat c]
    exact all _ ascii
  · have same : c.toUpper = c := by
      unfold Char.toUpper
      rw [dif_neg]
      rintro ⟨-, le⟩
      have le : c.toNat ≤ 122 := le
      omega
    rw [same]

/-- A character is its own lower-case one unless it is a letter. -/
theorem toLower_eq_or (c : Char) :
    c.toLower = c ∨ c.isAlpha = true ∧ c.toLower.isAlpha = true ∧ c.toLower.toLower = c.toLower := by
  by_cases ascii : c.toNat < 128
  · have all : ∀ n < 128, (Char.ofNat n).toLower = Char.ofNat n ∨
        (Char.ofNat n).isAlpha = true ∧ (Char.ofNat n).toLower.isAlpha = true ∧
          (Char.ofNat n).toLower.toLower = (Char.ofNat n).toLower := by decide
    have here := all _ ascii
    rwa [Char.ofNat_toNat] at here
  · left
    unfold Char.toLower
    rw [dif_neg]
    rintro ⟨-, le⟩
    have le : c.toNat ≤ 90 := le
    omega

theorem map_toLower_map_toLower (word : String) :
    (word.map Char.toLower).map Char.toLower = word.map Char.toLower := by
  apply String.toList_inj.mp
  simp only [String.toList_map, List.map_map]
  refine List.map_congr_left fun c _ => ?_
  rcases toLower_eq_or c with same | ⟨-, -, twice⟩
  · exact congrArg Char.toLower same
  · exact twice

/-- A word that is a keyword is written like it but for the letter case. -/
theorem toLower_of_ofWord? {word : String} {k : Keyword} (found : ofWord? word = some k) :
    word.map Char.toLower = k.lowercase := by
  unfold ofWord? at found
  have spelled := List.find?_some found
  rw [beq_iff_eq] at spelled
  rw [lowercase, spelled]
  apply String.toList_inj.mp
  simp only [String.toList_map, List.map_map]
  exact List.map_congr_left fun c _ => (toLower_toUpper c).symm

/-- The lower-case spelling scans as the keyword. -/
theorem nameKind_lowercase (k : Keyword) : Scan.nameKind k.lowercase.toList = .keyword k := by
  have word : k.lowercase.toList.all Scan.isKeywordChar = true :=
    List.all_eq_true.mpr fun c member => isKeywordChar_of_mem_lowercase member
  rw [Scan.nameKind, if_pos word, String.ofList_toList, ofWord?_lowercase]

end Keyword

end PipedQuery
