import PipedQuery.Grammar.Value
import PipedQuery.Proofs.Parser.Run
import PipedQuery.Proofs.Scan.Names

/-!
# Reading names

A dotted name is read part by part, and ends before the first lexeme that is no dot.
-/

namespace PipedQuery

namespace Parser

variable {source : Bool} {l : Lexeme} {ts : List Lexeme} {first part : String}

/-- The step of the loop over the parts of a dotted name. -/
def nameStep (name : String) : StageParser (Option String) := do
  match ← dottedPart? with
  | some part => return some (name ++ "." ++ part)
  | none => return none

theorem qualifiedName_run (h : namePart? source l = some first) (ts : List Lexeme) :
    qualifiedName source (l :: ts) = iterate nameStep first ts := by
  simp only [qualifiedName, bind_run, peek_run, Outcome.bind_ok, List.head?_cons, Option.bind_some,
    h, skip_run, List.drop_one, List.tail_cons, Outcome.after_nil]
  rfl

theorem dottedPart?_of_none (h : nextPart? ts = none) :
    dottedPart? ts = ⟨.ok none, ts, []⟩ := by
  simp [dottedPart?, h]

theorem dottedPart?_of_some (h : nextPart? ts = some part) :
    dottedPart? ts = ⟨.ok (some part), ts.drop 2, []⟩ := by
  simp [dottedPart?, h]

/-- A part of a name stands behind a dot. -/
theorem exists_of_nextPart? (h : nextPart? ts = some part) :
    ∃ dot l rest, ts = dot :: l :: rest ∧ dot.kind = .mark .dot ∧ namePart? true l = some part := by
  unfold nextPart? at h
  split at h
  · next dot l rest =>
    split at h
    · next kind => exact ⟨dot, l, rest, rfl, kind, h⟩
    · cases h
  · cases h

theorem dottedPart?_of_ne (h : firstKind ts ≠ some (.mark .dot)) :
    dottedPart? ts = ⟨.ok none, ts, []⟩ := by
  cases found : nextPart? ts with
  | none => exact dottedPart?_of_none found
  | some part =>
    obtain ⟨dot, l, rest, rfl, kind, -⟩ := exists_of_nextPart? found
    exact absurd (congrArg some kind) h

theorem nameStep_of_ne (h : firstKind ts ≠ some (.mark .dot)) (name : String) :
    nameStep name ts = ⟨.ok none, ts, []⟩ := by
  simp [nameStep, dottedPart?_of_ne h]

theorem nameStep_of_part (h : namePart? true l = some part) (name : String) (ts : List Lexeme) :
    nameStep name (.mark .dot :: l :: ts) = ⟨.ok (some (name ++ "." ++ part)), ts, []⟩ := by
  simp [nameStep, dottedPart?, nextPart?, h]

/-- A name of one part. -/
theorem qualifiedName_of_ne (found : namePart? source l = some first)
    (h : firstKind ts ≠ some (.mark .dot)) :
    qualifiedName source (l :: ts) = ⟨.ok first, ts, []⟩ := by
  rw [qualifiedName_run found, iterate_of_none (nameStep_of_ne h first)]

theorem namePart?_word {s : String} (anyKeyword : Bool)
    (named : (Keyword.ofWord? s).all Keyword.canNameField = true) :
    namePart? anyKeyword (.word s) = some s := by
  rcases Scan.nameKind_cases s.toList with ⟨k, kind, word⟩ | kind
  · rw [String.ofList_toList] at word
    have named : k.canNameField = true := by simpa [word] using named
    simp [namePart?, Lexeme.word, kind, named]
  · simp [namePart?, Lexeme.word, kind]

theorem namePart?_backticks (anyKeyword : Bool) (name : String) :
    namePart? anyKeyword (.backticks name) = some name := by
  change some (unquote (writeBackticks name)).value = some name
  rw [unquote_writeBackticks]

theorem named_of_isPlainPart {part : List Char} (plain : isPlainPart part = true) :
    (Keyword.ofWord? (String.ofList part)).all Keyword.canNameField = true := by
  simp only [isPlainPart, Bool.and_eq_true] at plain
  exact plain.2

theorem iterate_nameStep {parts : List (List Char)}
    (plain : ∀ p ∈ parts, isPlainPart p = true) (name : String) {rest : List Lexeme}
    (ends : firstKind rest ≠ some (.mark .dot)) :
    iterate nameStep name
        ((parts.flatMap fun p => [.mark .dot, .word (String.ofList p)]) ++ rest) =
      ⟨.ok (name ++ String.ofList (parts.flatMap ('.' :: ·))), rest, []⟩ := by
  induction parts generalizing name with
  | nil =>
    rw [List.flatMap_nil, List.nil_append, iterate_of_none (nameStep_of_ne ends name)]
    simp
  | cons p parts ih =>
    have part := namePart?_word true (named_of_isPlainPart (plain p (by simp)))
    have step := nameStep_of_part part name
      ((parts.flatMap fun p => [.mark .dot, .word (String.ofList p)]) ++ rest)
    simp only [List.flatMap_cons, List.cons_append, List.nil_append]
    rw [iterate_of_some step (by simp only [List.length_cons]; omega), Outcome.after_nil,
      ih fun p' member => plain p' (by simp [member])]
    congr 2
    apply String.toList_inj.mp
    simp

/-- A written name is read back whole. -/
theorem qualifiedName_nameLexemes (source : Bool) (name : String) {rest : List Lexeme}
    (ends : firstKind rest ≠ some (.mark .dot)) :
    qualifiedName source (nameLexemes name ++ rest) = ⟨.ok name, rest, []⟩ := by
  unfold nameLexemes
  split
  · next plain =>
    obtain ⟨part, parts, split, whole, -⟩ := exists_dottedParts name.toList
    simp only [isPlainName, split, Bool.and_eq_true, List.all_eq_true] at plain
    have first := namePart?_word source (named_of_isPlainPart (plain.2 part (by simp)))
    rw [split, dottedLexemes, List.cons_append, qualifiedName_run first,
      iterate_nameStep (fun p member => plain.2 p (by simp [member])) _ ends]
    congr 2
    apply String.toList_inj.mp
    simp [← whole]
  · exact qualifiedName_of_ne (namePart?_backticks source name) ends

end Parser

end PipedQuery
