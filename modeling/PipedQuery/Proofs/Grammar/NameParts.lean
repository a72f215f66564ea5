import PipedQuery.Proofs.Grammar.Sources
import PipedQuery.Proofs.Scan.NameParts

/-!
# Which written names and sources are read back

A written name is read back whole unless a star stands behind a dot in it (`fieldName_writeName`),
since the scanner makes a date suffix of the star.  A name that is written plainly as a source is
read back whole if and only if its parts are those of a source.
-/

namespace PipedQuery

open Scan

namespace Scan

variable {part : List Char} {parts : List (List Char)}

/-- A word is no date group, since a star starts a word only in front of a letter or sign. -/
theorem not_isDatePart_of_isWord (word : IsWord part) : isDatePart part = false := by
  obtain ⟨start, -⟩ := word
  cases part with
  | nil => rfl
  | cons c cs =>
    by_contra date
    rw [Bool.not_eq_false] at date
    rcases isNameStart_or_star start with name | rfl
    · exact absurd (isDateChar_of_isDatePart date) (by simp [not_date_of_isNameStart name])
    · cases cs with
      | nil => exact absurd start (by decide)
      | cons d ds =>
        have name : isNameStart d = true := start
        have apart : d ≠ '-' := by
          rintro rfl
          exact absurd name (by decide)
        rw [isDatePart_cons_of_ne apart, Bool.and_eq_true] at date
        exact absurd (isDateChar_of_isDatePart date.2) (by simp [not_date_of_isNameStart name])

theorem isDottedPart_of_isWord (word : IsWord part) :
    isDottedPart part = true ↔ part.head? ≠ some '*' := by
  rw [isDottedPart, not_isDatePart_of_isWord word, Bool.or_false]
  cases part with
  | nil => exact absurd word.1 (by decide)
  | cons c cs =>
    rcases isNameStart_or_star word.1 with name | rfl
    · have other : c ≠ '*' := by
        rintro rfl
        exact absurd name (by decide)
      simp [isWordPart, name, other]
    · simp [isWordPart]
      decide

end Scan

/-- A name of words is scannable if and only if every part behind a dot is one of a dotted name. -/
theorem all_isDottedPart_iff {name : String} {part : List Char} {parts : List (List Char)}
    (split : dottedParts name.toList = part :: parts) (words : ∀ q ∈ parts, IsWord q) :
    parts.all isDottedPart = true ↔ hasDotStar name.toList = false := by
  rw [List.all_eq_true]
  constructor
  · intro all
    by_contra star
    rw [Bool.not_eq_false] at star
    obtain ⟨q, inside, first⟩ := exists_star_part star
    rw [split, List.tail_cons] at inside
    exact (isDottedPart_of_isWord (words q inside)).mp (all q inside) first
  · intro noStar q inside
    obtain ⟨part', parts', split', -, heads⟩ := exists_dottedParts name.toList
    obtain ⟨rfl, rfl⟩ := List.cons.inj (split.symm.trans split')
    exact (isDottedPart_of_isWord (words q inside)).mpr (heads noStar q inside)

namespace Parser

variable {ls rest : List Lexeme} {part : List Char} {parts : List (List Char)}

theorem nameStep_of_endsName (ends : EndsName rest) (name : String) :
    nameStep name rest = ⟨.ok none, rest, []⟩ := by
  cases ends with
  | other notDot => exact nameStep_of_ne (by simpa using notDot) name
  | dash => simp [nameStep, dottedPart?, nextPart?, namePart?]

theorem ne_nil_of_endsName (ends : EndsName rest) : rest ≠ [] := by
  cases ends <;> exact List.cons_ne_nil _ _

/-- Behind a dotted name with something else the rest is left, if the name is read at all. -/
theorem rest_qualifiedName {source : Bool} (dotted : isDottedName ls = true) (ends : EndsName rest)
    (name : String) : qualifiedName source (ls ++ rest) ≠ ⟨.ok name, [], []⟩ := by
  cases ls with
  | nil => cases dotted
  | cons l ls =>
    cases first : namePart? source l with
    | none => simp [qualifiedName, first]
    | some part =>
      rw [List.cons_append, qualifiedName_run first,
        iterate_nameStep_dotted dotted (nameStep_of_endsName ends)]
      intro same
      exact ne_nil_of_endsName ends (congrArg Outcome.rest same)

end Parser

/-- Scanning a written name and reading a field name gives the name and leaves nothing, unless the
    name is written without backticks and has a star behind a dot. -/
theorem fieldName_writeName (name : String) :
    Parser.fieldName (((scan (writeName name)).filter fun t => t.isSignificant).map Token.toLexeme) =
      ⟨.ok name, [], []⟩ ↔ IsScannable name := by
  rw [significant_scan]
  constructor
  · intro whole plain
    obtain ⟨part, parts, split, text, word, words⟩ := exists_words_of_isPlainName plain
    have named : ∀ q ∈ parts, IsNamePart q := fun q inside => isNamePart_of_isWord (words q inside)
    rw [← all_isDottedPart_iff split words]
    obtain ⟨ls, rest, found, dotted, ends⟩ := exists_dotted_prefix word named
    by_contra other
    rw [if_neg other] at ends
    have sound := isSound_lexemes (isNameChar_parts word named)
    rw [writeName_of_plain plain, text, List.filter_eq_self.mpr fun l member => (sound l member).1.1,
      found] at whole
    exact Parser.rest_qualifiedName dotted ends name whole
  · intro scannable
    obtain ⟨found, sound⟩ := reads_name scannable
    rw [found, List.filter_eq_self.mpr fun l member => (sound l member).1,
      ← List.append_nil (nameLexemes name)]
    exact Parser.qualifiedName_nameLexemes false name nofun

/-- The name `a.*b` is written plainly, but the scanner takes `a.*` for a name with a date suffix, so
    that `b` is left. -/
theorem fieldName_writeName_star :
    writeName "a.*b" = "a.*b" ∧
      (Parser.fieldName (((scan (writeName "a.*b")).filter fun t => t.isSignificant).map
        Token.toLexeme)).rest = [⟨.identifier, "b"⟩] := by
  decide +kernel

/-! The same for sources. -/

theorem all_isDottedPart_of_areSourceParts {parts : List (List Char)}
    (found : areSourceParts parts = true) : parts.all isDottedPart = true := by
  rw [areSourceParts, Bool.or_eq_true, Bool.and_eq_true] at found
  rcases found with dates | ⟨-, all⟩
  · rw [List.all_eq_true] at dates ⊢
    exact fun q inside => by simp [isDottedPart, dates q inside]
  · exact all

/-- Behind a word, the parts of a source scan as those of a source. -/
theorem isSourceName_lexemes {part : List Char} {parts : List (List Char)} (word : IsWord part)
    (named : ∀ q ∈ parts, IsNamePart q) (found : areSourceParts parts = true) :
    isSourceName (Scan.lexemes (part ++ parts.flatMap ('.' :: ·))) = true := by
  obtain ⟨ls, rest, split, dotted, ends⟩ := exists_dotted_prefix word named
  rw [if_pos (all_isDottedPart_of_areSourceParts found)] at ends
  rw [ends, List.append_nil] at split
  obtain ⟨l, whole, -, dated, -⟩ := exists_lexemes_word word (head_parts parts)
  rw [isSourceName, split, dotted, Bool.true_and, ← split, whole]
  rw [areSourceParts, Bool.or_eq_true, Bool.and_eq_true] at found
  rcases found with dates | ⟨start, -⟩
  · rw [(left_eq_nil_iff named).mpr dates]
    simp
  · have single : l.kind ≠ .datedName := by
      intro kind
      cases parts with
      | nil => cases start
      | cons q qs =>
        cases q with
        | nil => cases start
        | cons c cs =>
          have name : isNameStart c = true := start
          refine dated.mp kind ?_
          rw [List.flatMap_cons, List.cons_append, List.cons_append,
            dateSuffix_of_not_date (not_date_of_isNameStart name)]
    simp [single]

namespace Parser

variable {l : Lexeme} {ls rest : List Lexeme} {part : List Char} {parts : List (List Char)}

theorem qualifiedName_source (dotted : isDottedName (l :: ls) = true)
    (ends : EndsName rest) :
    ∃ name, qualifiedName true (l :: ls ++ rest) = ⟨.ok name, rest, []⟩ :=
  ⟨_, qualifiedName_dotted dotted (nameStep_of_endsName ends)⟩

/-- A bare name that is no name with a date suffix starts a dotted name, and behind `@` every one
    does. -/
theorem dataSource_of_bare (bare : l.isBareName = true)
    (single : l.kind ≠ .datedName ∨ l.text.toList.head? = some '@') (ts : List Lexeme) :
    dataSource (l :: ts) = (qualifiedName true (l :: ts)).bind fun name => pure (.ofName name) := by
  by_cases dated : l.kind = .datedName
  · have first := single.resolve_left (not_not.mpr dated)
    simp [dataSource, dated, first]
  · refine dataSource_of_name ?_ ts
    unfold Lexeme.isBareName at bare
    split at bare
    · next kind => exact .inl kind
    · next kind => exact absurd kind dated
    · next k kind => exact .inr (.inl ⟨k, kind⟩)
    · cases bare

/-- Parts that are those of a dotted name but not of a source start with date groups. -/
theorem exists_date_head (other : areSourceParts parts = false)
    (dotted : parts.all isDottedPart = true) : ∃ q qs, parts = q :: qs ∧ isDatePart q = true := by
  obtain ⟨notDates, notParts⟩ := Bool.or_eq_false_iff.mp other
  cases parts with
  | nil => cases notDates
  | cons q qs =>
    rw [dotted, Bool.and_true] at notParts
    rw [List.all_cons, Bool.and_eq_true, isDottedPart, Bool.or_eq_true] at dotted
    refine ⟨q, qs, rfl, dotted.1.resolve_left fun start => ?_⟩
    cases start.symm.trans notParts

/-- Something is left of a name that is written plainly as a source if its parts are not those of a
    source. -/
theorem dataSource_of_not_areSourceParts (word : IsWord part) (named : ∀ q ∈ parts, IsNamePart q)
    (plain : part.head? ≠ some '@' ∨ ∀ q ∈ parts, IsWord q) (other : areSourceParts parts = false) :
    ∃ s l rest,
      dataSource (Scan.lexemes (part ++ parts.flatMap ('.' :: ·))) = ⟨.ok s, l :: rest, []⟩ := by
  obtain ⟨l, whole, bare, dated, first⟩ := exists_lexemes_word word (head_parts parts)
  by_cases single : l.kind ≠ .datedName ∨ l.text.toList.head? = some '@'
  · have notDotted : ¬parts.all isDottedPart = true := by
      intro dotted
      obtain ⟨q, qs, rfl, date⟩ := exists_date_head other dotted
      have kind : l.kind = .datedName := by
        cases q with
        | nil => cases date
        | cons c cs => exact dated.mpr (dateSuffix_fst_ne_nil (isDateChar_of_isDatePart date) _)
      have start := single.resolve_left (not_not.mpr kind)
      rw [first] at start
      have words := plain.resolve_left (not_not.mpr start)
      rw [not_isDatePart_of_isWord (words q List.mem_cons_self)] at date
      cases date
    obtain ⟨ls, rest, split, dotted, ends⟩ := exists_dotted_prefix word named
    rw [if_neg notDotted] at ends
    cases ls with
    | nil => cases dotted
    | cons l' ls =>
      obtain ⟨rfl, -⟩ := List.cons.inj (whole.symm.trans split)
      obtain ⟨name, read⟩ := qualifiedName_source dotted ends
      obtain ⟨l', rest, rfl⟩ := List.exists_cons_of_ne_nil (ne_nil_of_endsName ends)
      refine ⟨.ofName name, l', rest, ?_⟩
      rw [split, List.cons_append, dataSource_of_bare bare single, ← List.cons_append, read]
      rfl
  · obtain ⟨kind, notAt⟩ := not_or.mp single
    have left : (dateSuffix (parts.flatMap ('.' :: ·))).2 ≠ [] := by
      rw [ne_eq, left_eq_nil_iff named, (Bool.or_eq_false_iff.mp other).1]
      exact Bool.false_ne_true
    have chars : ∀ c ∈ (dateSuffix (parts.flatMap ('.' :: ·))).2, isNameChar c = true := by
      intro c member
      refine isNameChar_parts word named c (List.mem_append_right _ ?_)
      rw [← dateSuffix_append (parts.flatMap _)]
      exact List.mem_append_right _ member
    obtain ⟨l', rest, more⟩ := List.exists_cons_of_ne_nil (lexemes_ne_nil chars left)
    refine ⟨sourceOfWord l.text, l', rest, ?_⟩
    rw [whole, dataSource_of_word (.inr (not_not.mp kind)) notAt, more]

end Parser

end PipedQuery
