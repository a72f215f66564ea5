import PipedQuery.Name
import PipedQuery.Proofs.Scan.Quotations
import PipedQuery.Proofs.Scan.Words

/-!
# Scanning names

A name written plainly scans as its parts with dots between them, unless a star behind a dot makes a
date suffix of a part.  Every other name scans as one quotation.
-/

namespace PipedQuery

/-- Whether `writeName` writes the name without backticks. -/
def isPlainName (name : String) : Bool :=
  !name.isEmpty && (dottedParts name.toList).all isPlainPart

/-- Whether a star stands behind a dot, as in the date suffix `.*`. -/
def hasDotStar : List Char → Bool
  | '.' :: '*' :: _ => true
  | _ :: cs => hasDotStar cs
  | [] => false

/-- The lexemes of a plain name with the given parts. -/
def dottedLexemes : List (List Char) → List Lexeme
  | [] => []
  | part :: parts =>
    .word (String.ofList part) :: parts.flatMap fun p => [.mark .dot, .word (String.ofList p)]

/-- The lexemes that the written name scans as. -/
def nameLexemes (name : String) : List Lexeme :=
  if isPlainName name then dottedLexemes (dottedParts name.toList) else [.backticks name]

/-- Whether scanning the written name gives it back. -/
def IsScannable (name : String) : Prop := isPlainName name = true → hasDotStar name.toList = false

theorem writeName_of_plain {name : String} (plain : isPlainName name = true) :
    writeName name = name := by
  rw [writeName]
  exact if_pos plain

theorem writeName_of_not_plain {name : String} (quoted : ¬isPlainName name = true) :
    writeName name = writeBackticks name := by
  rw [writeName]
  exact if_neg quoted

namespace Keyword

theorem all_letters :
    (all.all fun k => k.canNameField || k.spelling.toList.length != 1) = true := by
  decide +kernel

/-- The words that name no field have two letters at least. -/
theorem canNameField_of_letter {k : Keyword} {c : Char} (letter : k.lowercase.toList = [c]) :
    k.canNameField = true := by
  have length : k.spelling.toList.length = 1 := by
    rw [lowercase_toList] at letter
    simpa using congrArg List.length letter
  have found := List.all_eq_true.mp all_letters k (mem_all k)
  simpa [length] using found

end Keyword

section Letters

variable {c : Char} (letter : c.isAlpha = true)
include letter

theorem dottedParts_letter : dottedParts [c] = [[c]] := by
  have noDot : c ≠ '.' := by
    rintro rfl
    cases letter
  simp [dottedParts, noDot]

/-- Every letter is a plain name by itself. -/
theorem isPlainName_letter : isPlainName (String.singleton c) = true := by
  have start : Scan.startsName [c] = true := by
    simp [Scan.startsName, Scan.isNameStart, letter]
  have noElse : isElse (String.singleton c) = false := by
    rw [isElse, beq_eq_false_iff_ne]
    intro same
    simpa using congrArg (fun s => s.toList.length) same
  have named : (Keyword.ofWord? (String.singleton c)).all Keyword.canNameField = true := by
    cases found : Keyword.ofWord? (String.singleton c) with
    | none => rfl
    | some k =>
      have spelled := congrArg String.toList (Keyword.toLower_of_ofWord? found)
      rw [String.toList_map, String.toList_singleton] at spelled
      exact Keyword.canNameField_of_letter spelled.symm
  simp [isPlainName, dottedParts_letter letter, isPlainPart, start, noElse, named]

theorem writeName_letter : writeName (String.singleton c) = String.singleton c :=
  writeName_of_plain (isPlainName_letter letter)

theorem nameLexemes_letter : nameLexemes (String.singleton c) = [.word (String.singleton c)] := by
  simp [nameLexemes, isPlainName_letter letter, dottedParts_letter letter, dottedLexemes]

end Letters

theorem hasDotStar_cons_of_ne {c : Char} (other : c ≠ '.') (cs : List Char) :
    hasDotStar (c :: cs) = hasDotStar cs := by
  rw [hasDotStar]
  rintro cs' rfl
  exact absurd rfl other

theorem of_hasDotStar_dot {cs : List Char} (h : hasDotStar ('.' :: cs) = false) :
    cs.head? ≠ some '*' ∧ hasDotStar cs = false := by
  cases cs with
  | nil => exact ⟨by simp, rfl⟩
  | cons c cs =>
    by_cases star : c = '*'
    · subst star
      simp [hasDotStar] at h
    · rw [hasDotStar] at h
      · exact ⟨by simpa using star, h⟩
      · intro cs' _ same
        exact star (List.cons.inj same).1

/-- A text is its parts with dots between them. -/
theorem exists_dottedParts (cs : List Char) :
    ∃ part parts, dottedParts cs = part :: parts ∧ cs = part ++ parts.flatMap ('.' :: ·) ∧
      (hasDotStar cs = false → ∀ p ∈ parts, p.head? ≠ some '*') := by
  induction cs with
  | nil => exact ⟨[], [], rfl, rfl, by simp⟩
  | cons c cs ih =>
    obtain ⟨part, parts, split, whole, noStar⟩ := ih
    by_cases dot : c = '.'
    · subst dot
      refine ⟨[], part :: parts, by rw [dottedParts, if_pos rfl, split], by simp [whole], ?_⟩
      intro clean p member
      obtain ⟨first, others⟩ := of_hasDotStar_dot clean
      rcases List.mem_cons.mp member with rfl | member
      · intro star
        rw [whole, List.head?_append, star] at first
        exact first rfl
      · exact noStar others p member
    · refine ⟨c :: part, parts, by rw [dottedParts, if_neg dot, split], by simp [← whole], ?_⟩
      rw [hasDotStar_cons_of_ne dot]
      exact noStar

/-- The lexemes of a name start with a word or a quotation, and then the next one is a dot. -/
theorem exists_nameLexemes (name : String) :
    ∃ l ls, nameLexemes name = l :: ls ∧ (l.kind = .identifier ∨ (∃ k, l.kind = .keyword k) ∨
      l.kind = .quoted .backtick) ∧ ∀ l' ∈ ls.head?, l'.kind = .mark .dot := by
  unfold nameLexemes
  split
  · obtain ⟨part, parts, split, -⟩ := exists_dottedParts name.toList
    rw [split]
    refine ⟨_, _, rfl, ?_, ?_⟩
    · rcases Scan.nameKind_cases part with ⟨k, kind, -⟩ | kind
      · exact .inr (.inl ⟨k, by simp [Lexeme.word, kind]⟩)
      · exact .inl (by simp [Lexeme.word, kind])
    · cases parts <;> simp
  · exact ⟨_, _, rfl, .inr (.inr rfl), by simp⟩

theorem isWord_of_isPlainPart {part : List Char} (plain : isPlainPart part = true) :
    Scan.IsWord part := by
  simp only [isPlainPart, Bool.and_eq_true, List.all_eq_true] at plain
  exact ⟨plain.1.1.1, plain.1.2⟩

namespace Scan

theorem endsWord_parts {parts : List (List Char)} (words : ∀ p ∈ parts, IsWord p)
    (noStar : ∀ p ∈ parts, p.head? ≠ some '*') : EndsWord (parts.flatMap ('.' :: ·)) := by
  cases parts with
  | nil => exact stops_nil.endsWord
  | cons p parts =>
    obtain ⟨start, -⟩ := words p (by simp)
    have first := noStar p (by simp)
    cases p with
    | nil => simp [startsName] at start
    | cons d ds =>
      have other : d ≠ '*' := by simpa using first
      exact endsWord_dot (by simp [isDateChar, not_isDigit_of_startsName start, other]) _

theorem reads_parts {parts : List (List Char)} (words : ∀ p ∈ parts, IsWord p)
    (noStar : ∀ p ∈ parts, p.head? ≠ some '*') :
    Reads (parts.flatMap ('.' :: ·))
      (parts.flatMap fun p => [.mark .dot, .word (String.ofList p)]) := by
  induction parts with
  | nil => exact reads_nil
  | cons p parts ih =>
    have words' : ∀ p ∈ parts, IsWord p := fun p member => words p (by simp [member])
    have noStar' : ∀ p ∈ parts, p.head? ≠ some '*' := fun p member => noStar p (by simp [member])
    have word := words p (by simp)
    have here := lexemes_word (s := String.ofList p) (by simpa using word)
      (endsWord_parts words' noStar')
    rw [String.toList_ofList, (ih words' noStar').1] at here
    have sound := (ih words' noStar').2
    refine Reads.mark ⟨here, ?_⟩ rfl
    intro l member
    rcases List.mem_cons.mp member with rfl | member
    · exact isSound_word _
    · exact sound l member

/-- A written name scans as its lexemes. -/
theorem reads_name {name : String} (scannable : IsScannable name) :
    Reads (writeName name).toList (nameLexemes name) := by
  by_cases plain : isPlainName name = true
  · obtain ⟨part, parts, split, whole, noStar⟩ := exists_dottedParts name.toList
    have noStar := noStar (scannable plain)
    rw [writeName_of_plain plain, nameLexemes, if_pos plain, split]
    simp only [isPlainName, split, Bool.and_eq_true, List.all_eq_true] at plain
    have words : ∀ p ∈ part :: parts, IsWord p := fun p member =>
      isWord_of_isPlainPart (plain.2 p member)
    have words' : ∀ p ∈ parts, IsWord p := fun p member => words p (by simp [member])
    have others := reads_parts words' noStar
    have here := lexemes_word (s := String.ofList part) (by simpa using words part (by simp))
      (endsWord_parts words' noStar)
    rw [String.toList_ofList, others.1, ← whole] at here
    refine ⟨here, ?_⟩
    intro l member
    rcases List.mem_cons.mp member with rfl | member
    · exact isSound_word _
    · exact others.2 l member
  · rw [writeName_of_not_plain plain, nameLexemes, if_neg plain]
    exact reads_backticks name

end Scan

end PipedQuery
