import PipedQuery.Proofs.Pipeline.Stages
import PipedQuery.Proofs.Scan.Alone

/-!
# Texts with other blanks

A text may be written again with one blank between the lexemes that the grammar reads, and nothing
else.  That text has the same lexemes (`lexemes_spaced_iff`), and so it is parsed into the same query
(`parse_respaced`), unless a star is taken for a name only for the `@` behind it.
-/

namespace PipedQuery

/-- The texts of some lexemes with single blanks between them. -/
def spaced (ls : List Lexeme) : List Char := [' '].intercalate (ls.map fun l => l.text.toList)

/-- The significant tokens of a text with single blanks between them. -/
def respaced (text : String) : String :=
  " ".intercalate (((scan text).filter fun t => t.isSignificant).map fun t => t.text)

/-- Whether the grammar reads the lexemes, and they were cut off texts, quotations without an end last
    of all. -/
def AreScanned : List Lexeme → Prop
  | [] => True
  | l :: ls =>
    (∃ c cs, (Scan.cut c cs).lexeme = l) ∧ l.isSignificant = true ∧ (¬l.IsClosed → ls = []) ∧
      AreScanned ls

/-- The respaced text is written from the lexemes of the text that are not blank. -/
theorem toList_respaced (text : String) :
    (respaced text).toList = spaced ((Scan.lexemes text.toList).filter Lexeme.isSignificant) := by
  rw [respaced, spaced, ← significant_scan, String.toList_intercalate, List.map_map, List.map_map]
  rfl

/-- What a scan gives has been scanned. -/
theorem areScanned_lexemes (cs : List Char) :
    AreScanned ((Scan.lexemes cs).filter Lexeme.isSignificant) := by
  match cs with
  | [] =>
    rw [Scan.lexemes_nil]
    trivial
  | c :: cs =>
    have shorter := Scan.cut_rest_length_le c cs
    have others := areScanned_lexemes (Scan.cut c cs).rest
    rw [Scan.lexemes_cons]
    split
    · exact others
    · rw [List.filter_cons]
      split
      · next significant =>
        refine ⟨⟨c, cs, rfl⟩, significant, fun unclosed => ?_, others⟩
        rw [Scan.rest_of_open unclosed, Scan.lexemes_nil, List.filter_nil]
      · exact others
termination_by cs.length

/-- Behind the first of some lexemes comes a text that it ends at, with the other lexemes. -/
theorem exists_spaced_cons (l : Lexeme) (ls : List Lexeme) :
    ∃ rest, spaced (l :: ls) = l.text.toList ++ rest ∧ Scan.Stops rest ∧
      Scan.lexemes rest = Scan.lexemes (spaced ls) ∧ (ls = [] → rest = []) := by
  cases ls with
  | nil => exact ⟨[], by simp [spaced], Scan.stops_nil, rfl, fun _ => rfl⟩
  | cons l' ls =>
    refine ⟨' ' :: spaced (l' :: ls), ?_, Scan.stops_cons.mpr rfl, Scan.lexemes_blank rfl _, nofun⟩
    simp [spaced, List.intercalate_cons_cons]

/-- Lexemes with blanks between them are scanned alike, unless there is a stray star among them. -/
theorem lexemes_spaced_iff {ls : List Lexeme} (scanned : AreScanned ls) :
    Scan.lexemes (spaced ls) = ls ↔ ∀ l ∈ ls, ¬l.IsStrayStar := by
  induction ls with
  | nil => simp [spaced]
  | cons l ls ih =>
    obtain ⟨⟨c, cs, rfl⟩, significant, last, others⟩ := scanned
    obtain ⟨rest, whole, stops, same, ends⟩ := exists_spaced_cons (Scan.cut c cs).lexeme ls
    have text : (Scan.cut c cs).lexeme.text.toList = (Scan.cut c cs).text := String.toList_ofList
    rw [whole, text, List.forall_mem_cons, ← ih others, ← same]
    by_cases stray : (Scan.cut c cs).lexeme.IsStrayStar
    · refine iff_of_false (fun again => ?_) fun h => h.1 stray
      exact Scan.head?_lexemes_of_isStrayStar stray stops (by rw [again, List.head?_cons])
    · rw [Scan.lexemes_text_cut_append significant stray stops fun unclosed => ends (last unclosed)]
      simp [stray]

/-- A text has the same significant tokens and is parsed into the same query when they are written
    with single blanks between them, unless there is a stray star among them. -/
theorem parse_respaced {text : String} (plain : ∀ t ∈ scan text, ¬t.toLexeme.IsStrayStar) :
    let significant (text : String) :=
      ((scan text).filter fun t => t.isSignificant).map Token.toLexeme
    significant (respaced text) = significant text ∧
      (parse (respaced text)).query = (parse text).query := by
  have free : ∀ l ∈ (Scan.lexemes text.toList).filter Lexeme.isSignificant, ¬l.IsStrayStar := by
    rw [← significant_scan]
    intro l member
    obtain ⟨t, inside, rfl⟩ := List.mem_map.mp member
    exact plain t (List.mem_filter.mp inside).1
  have same : (Scan.lexemes (respaced text).toList).filter Lexeme.isSignificant =
      (Scan.lexemes text.toList).filter Lexeme.isSignificant := by
    rw [toList_respaced, (lexemes_spaced_iff (areScanned_lexemes _)).mpr free, List.filter_filter]
    simp only [Bool.and_self]
  refine ⟨by simpa only [significant_scan] using same, ?_⟩
  have commands : (parse (respaced text)).query.commands = (parse text).query.commands := by
    rw [parse, parse, commands_parseWith rfl, commands_parseWith rfl, same]
  calc (parse (respaced text)).query
    _ = ⟨(parse (respaced text)).query.commands⟩ := rfl
    _ = (parse text).query := by rw [commands]

/-- Nothing but blanks and characters that are not recognized comes and goes, and a string without an
    end stays one. -/
theorem parse_respaced_open_string :
    respaced "#where a-b>=1.5#and logs-*!='it''s" = "where a-b >= 1.5 and logs-* != 'it''s" ∧
      (parse "where a-b >= 1.5 and logs-* != 'it''s").query =
        (parse "#where a-b>=1.5#and logs-*!='it''s").query := by
  have text : respaced "#where a-b>=1.5#and logs-*!='it''s" =
      "where a-b >= 1.5 and logs-* != 'it''s" := by decide +kernel
  have plain : ∀ t ∈ scan "#where a-b>=1.5#and logs-*!='it''s", ¬t.toLexeme.IsStrayStar := by
    decide +kernel
  have query := (parse_respaced plain).2
  rw [text] at query
  exact ⟨text, query⟩

/-- A star in front of `@` is a name, and a mark in front of a blank. -/
theorem parse_respaced_star :
    let significant (text : String) :=
      ((scan text).filter fun t => t.isSignificant).map Token.toLexeme
    respaced "where *@x" = "where * @x" ∧
      significant (respaced "where *@x") ≠ significant "where *@x" ∧
      (parse (respaced "where *@x")).query ≠ (parse "where *@x").query := by
  intro significant
  refine ⟨by decide +kernel, by decide +kernel, fun same => ?_⟩
  exact absurd (congrArg (fun q => q.commands.length) same) (by decide +kernel)

end PipedQuery
