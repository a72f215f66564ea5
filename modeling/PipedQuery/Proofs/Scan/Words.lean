import PipedQuery.Proofs.Keyword.Spelling
import PipedQuery.Proofs.Scan.Boundary

/-!
# Scanning words

A word, which is a keyword or an undotted name, is one lexeme before every text that does not go on
with it (`lexemes_word`).
-/

namespace PipedQuery

/-- The lexeme of a word, which is a keyword or an undotted name. -/
def Lexeme.word (s : String) : Lexeme := ⟨Scan.nameKind s.toList, s⟩

/-- The lexeme of a keyword as it is written in canonical texts. -/
def Keyword.lexeme (k : Keyword) : Lexeme := ⟨.keyword k, k.lowercase⟩

@[simp] theorem Keyword.lexeme_kind (k : Keyword) : k.lexeme.kind = .keyword k := rfl

/-- The lower-case spelling of a keyword is read as the keyword. -/
theorem Lexeme.word_lowercase (k : Keyword) : Lexeme.word k.lowercase = k.lexeme := by
  rw [Lexeme.word, Keyword.nameKind_lowercase, Keyword.lexeme]

namespace Scan

/-- A run is a keyword or an identifier. -/
theorem nameKind_cases (run : List Char) :
    (∃ k, nameKind run = .keyword k ∧ Keyword.ofWord? (String.ofList run) = some k) ∨
      nameKind run = .identifier := by
  unfold nameKind
  split
  · cases found : Keyword.ofWord? (String.ofList run) with
    | none => exact .inr rfl
    | some k => exact .inl ⟨k, rfl, rfl⟩
  · exact .inr rfl

theorem word_ne_mark (s : String) (m : Mark) : (Lexeme.word s).kind ≠ .mark m := by
  rcases nameKind_cases s.toList with ⟨k, kind, -⟩ | kind <;> simp [Lexeme.word, kind]

theorem isSound_word (s : String) : (Lexeme.word s).IsSound := by
  rcases nameKind_cases s.toList with ⟨k, kind, -⟩ | kind <;>
    simp [Lexeme.IsSound, Lexeme.IsClosed, Lexeme.word, kind, Lexeme.isSignificant,
      TokenKind.channel, TokenKind.isQuoted]

/-- Whether the word before the text ends there, a dot being left to a dotted name. -/
def EndsWord (rest : List Char) : Prop :=
  (∀ c ∈ rest.head?, isNameContinue c = false ∧ c ≠ ':') ∧ dateSuffix rest = ([], rest)

/-- Only a dot or a hyphen can start a date suffix. -/
theorem dateSuffix_of_ne {rest : List Char} (h : ∀ c ∈ rest.head?, c ≠ '.' ∧ c ≠ '-') :
    dateSuffix rest = ([], rest) := by
  match rest, h with
  | [], _ => simp [dateSuffix]
  | [_], _ => simp [dateSuffix]
  | sep :: c :: cs, h =>
    obtain ⟨dot, dash⟩ := h sep rfl
    simp [dateSuffix, dot, dash]

/-- A stop ends a word. -/
theorem Stops.endsWord {rest : List Char} (h : Stops rest) : EndsWord rest := by
  refine ⟨fun c member => ?_, dateSuffix_of_ne fun c member => ?_⟩
  · exact ⟨isNameContinue_of_isStop (h c member), ne_of_isStop (h c member) (by decide)⟩
  · exact ⟨ne_of_isStop (h c member) (by decide), ne_of_isStop (h c member) (by decide)⟩

theorem endsWord_equal (cs : List Char) : EndsWord ('=' :: cs) :=
  ⟨by simp [isNameContinue], dateSuffix_of_ne (by simp)⟩

theorem endsWord_dot {d : Char} (h : isDateChar d = false) (cs : List Char) :
    EndsWord ('.' :: d :: cs) :=
  ⟨by simp [isNameContinue], by simp [dateSuffix, h]⟩

/-- Whether the text is a single word. -/
def IsWord (cs : List Char) : Prop := startsName cs = true ∧ ∀ c ∈ cs.tail, isNameContinue c = true

instance (cs : List Char) : Decidable (IsWord cs) :=
  decidable_of_iff (startsName cs = true ∧ cs.tail.all isNameContinue = true) (by simp [IsWord])

theorem isNameStart_or_star {c : Char} {cs : List Char} (h : startsName (c :: cs) = true) :
    isNameStart c = true ∨ c = '*' := by
  unfold startsName at h
  split at h
  · next same =>
    obtain ⟨rfl, -⟩ := List.cons.inj same
    exact .inr rfl
  · next same =>
    obtain ⟨rfl, -⟩ := List.cons.inj same
    exact .inl h
  · next same => cases same

theorem startsName_of_isNameStart {c : Char} (start : isNameStart c = true) (cs : List Char) :
    startsName (c :: cs) = true := by
  unfold startsName
  split
  · next same =>
    obtain ⟨rfl, -⟩ := List.cons.inj same
    exact absurd start (by decide)
  · next same =>
    obtain ⟨rfl, -⟩ := List.cons.inj same
    exact start
  · next same => cases same

/-- A word is still one in lower case. -/
theorem IsWord.map_toLower {cs : List Char} (word : IsWord cs) : IsWord (cs.map Char.toLower) := by
  have start {c : Char} (h : isNameStart c = true) : isNameStart c.toLower = true := by
    rcases Keyword.toLower_eq_or c with same | ⟨-, alpha, -⟩
    · rwa [same]
    · simp [isNameStart, alpha]
  have continues {c : Char} (h : isNameContinue c = true) : isNameContinue c.toLower = true := by
    rcases Keyword.toLower_eq_or c with same | ⟨-, alpha, -⟩
    · rwa [same]
    · simp [isNameContinue, Char.isAlphanum, alpha]
  obtain ⟨first, others⟩ := word
  constructor
  · cases cs with
    | nil => exact absurd first (by decide)
    | cons c cs =>
      rcases isNameStart_or_star first with proper | rfl
      · exact startsName_of_isNameStart (start proper) _
      · cases cs with
        | nil => exact absurd first (by decide)
        | cons d ds => exact start first
  · intro c member
    rw [← List.map_tail] at member
    obtain ⟨d, inside, rfl⟩ := List.mem_map.mp member
    exact continues (others d inside)

theorem not_isDigit_of_isAlpha {c : Char} (h : c.isAlpha = true) : c.isDigit = false := by
  by_cases digit : c.isDigit = true
  · have small : c.toNat < 58 := by
      have bounds := Char.isDigit_iff_toNat.mp digit
      exact Nat.lt_succ_of_le bounds.2
    have all : ∀ n < 58, (Char.ofNat n).isAlpha = false := by decide
    have other := all c.toNat small
    rw [Char.ofNat_toNat, h] at other
    cases other
  · simpa using digit

theorem not_isDigit_of_startsName {c : Char} {cs : List Char} (h : startsName (c :: cs) = true) :
    c.isDigit = false := by
  rcases isNameStart_or_star h with start | rfl
  · simp only [isNameStart, Bool.or_eq_true, decide_eq_true_eq] at start
    rcases start with (alpha | rfl) | rfl
    · exact not_isDigit_of_isAlpha alpha
    · decide
    · decide
  · decide

/-- What is cut as a name is neither a blank nor a mark. -/
theorem cutName_kind_ne (c : Char) (cs : List Char) :
    (cutName c cs).kind ≠ .space ∧ ∀ m, (cutName c cs).kind ≠ .mark m := by
  unfold cutName
  dsimp only
  split
  · simp
  split
  · simp
  · rcases nameKind_cases (c :: cs.takeWhile isNameContinue) with ⟨k, kind, -⟩ | kind <;> simp [kind]

theorem cut_kind_ne_space {c : Char} (word : isBlank c = false) (cs : List Char) :
    (cut c cs).kind ≠ .space := by
  have mark (plain withEqual : Mark) : (cutMark c plain withEqual cs).kind ≠ .space := by
    fun_cases cutMark c plain withEqual cs <;> simp
  have number : (cutNumber c cs).kind ≠ .space := by
    fun_cases cutNumber c cs <;> simp
  unfold cut
  simp only [word, Bool.false_eq_true, if_false]
  split
  · simp
  split
  · exact mark _ _
  split
  · exact mark _ _
  split
  · exact mark _ _
  split
  · simp
  split
  · exact number
  split
  · exact (cutName_kind_ne c cs).1
  split <;> simp

/-- Where a name starts, one is cut. -/
theorem cut_of_startsName {c : Char} {cs : List Char} (h : startsName (c :: cs) = true) :
    cut c cs = cutName c cs := by
  have start := isNameStart_or_star h
  have apart (d : Char) (other : isNameStart d = false ∧ d ≠ '*') : c ≠ d := by
    rintro rfl
    simp [other] at start
  have blank : isBlank c = false := by
    simp [isBlank, apart ' ' (by decide), apart '\t' (by decide), apart '\r' (by decide),
      apart '\n' (by decide)]
  have mark : plainMark? c = none := by
    unfold plainMark?
    split <;> first | rfl | exact absurd rfl (apart _ (by decide))
  have quote : Quote.ofChar? c = none := by
    simp [Quote.ofChar?, apart '"' (by decide), apart '\'' (by decide), apart '`' (by decide)]
  simp [cut, blank, mark, apart '!' (by decide), apart '<' (by decide), apart '>' (by decide),
    quote, not_isDigit_of_startsName h, h]

/-- A word is cut in front of what ends it. -/
theorem cut_word {c : Char} {cs rest : List Char} (word : IsWord (c :: cs)) (ends : EndsWord rest) :
    cut c (cs ++ rest) = ⟨nameKind (c :: cs), c :: cs, rest⟩ := by
  obtain ⟨start, inner⟩ := word
  rw [List.tail_cons] at inner
  have start' : startsName (c :: (cs ++ rest)) = true := by
    cases cs with
    | cons d ds => by_cases star : c = '*' <;> simpa [startsName, star] using start
    | nil =>
      have : isNameStart c = true := by
        rcases isNameStart_or_star start with start | rfl
        · exact start
        · exact absurd start (by decide)
      have other : c ≠ '*' := by
        rintro rfl
        exact absurd this (by decide)
      simp [startsName, other, this]
  have before : (cs ++ rest).takeWhile isNameContinue = cs := by
    rw [takeWhile_append_of_head cs fun c member => (ends.1 c member).1]
    exact takeWhile_of_all inner
  have behind : (cs ++ rest).dropWhile isNameContinue = rest := by
    rw [dropWhile_append_of_head cs fun c member => (ends.1 c member).1, dropWhile_of_all inner,
      List.nil_append]
  have cluster : clusterSuffix (c :: cs) rest = ([], rest) := by
    unfold clusterSuffix
    split
    · exact absurd rfl (ends.1 ':' rfl).2
    · rfl
  rw [cut_of_startsName start', cutName]
  simp only [before, behind, cluster, ends.2]
  simp

/-- A word is one lexeme before every text that does not go on with it. -/
theorem lexemes_word {s : String} {rest : List Char} (word : IsWord s.toList)
    (ends : EndsWord rest) : lexemes (s.toList ++ rest) = .word s :: lexemes rest := by
  cases spelled : s.toList with
  | nil => exact absurd word.1 (by simp [spelled, startsName])
  | cons c cs =>
    have other : nameKind (c :: cs) ≠ .space := by
      rcases nameKind_cases (c :: cs) with ⟨k, kind, -⟩ | kind <;> simp [kind]
    rw [List.cons_append, lexemes_of_cut (cut_word (spelled ▸ word) ends) other, Lexeme.word,
      spelled, ← spelled, String.ofList_toList]

/-- A word reads as its lexeme. -/
theorem reads_word {s : String} (word : IsWord s.toList) : Reads s.toList [.word s] := by
  have found := lexemes_word word stops_nil.endsWord
  rw [List.append_nil, lexemes_nil] at found
  exact ⟨found, by simpa using isSound_word s⟩

theorem isWord_lowercase (k : Keyword) : IsWord k.lowercase.toList := by
  obtain ⟨c, cs, spelled, upper, -⟩ := k.exists_spelling
  have member : ∀ d ∈ k.lowercase.toList, isNameContinue d = true := fun d member => by
    have := Keyword.isKeywordChar_of_mem_lowercase member
    simp only [isKeywordChar, Bool.or_eq_true] at this
    rcases this with alphanum | underscore <;> simp [isNameContinue, *]
  refine ⟨?_, fun d found => member d (List.mem_of_mem_tail found)⟩
  rw [Keyword.lowercase_toList, spelled, List.map_cons]
  have first : c ∈ k.spelling.toList := by simp [spelled]
  have alpha : c.toLower.isAlpha = true :=
    (Keyword.toLower_of_isSpellingChar (Keyword.isSpellingChar_of_mem first)).2.2 upper
  have other : c.toLower ≠ '*' := by
    intro star
    rw [star] at alpha
    exact absurd alpha (by decide)
  simp [startsName, other, isNameStart, alpha]

/-- The lower-case spelling of a keyword reads as the keyword. -/
theorem reads_keyword (k : Keyword) : Reads k.lowercase.toList [k.lexeme] := by
  rw [← Lexeme.word_lowercase]
  exact reads_word (isWord_lowercase k)

/-- A keyword whose canonical spelling is given. -/
theorem reads_keyword_as (k : Keyword) (s : String)
    (spelled : k.spelling.toList.map Char.toLower = s.toList) : Reads s.toList [k.lexeme] := by
  rw [← Keyword.lowercase_eq spelled]
  exact reads_keyword k

end Scan

end PipedQuery
