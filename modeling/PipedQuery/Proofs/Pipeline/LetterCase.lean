import PipedQuery.Proofs.Grammar.LetterCase
import PipedQuery.Proofs.Pipeline.Stages
import PipedQuery.Proofs.Text.Lines

/-!
# Queries in any letter case

Texts that differ in nothing but letter case are scanned alike, and their queries have the same
commands by name (`scan_parse_of_map_toLower_eq`).  The text of each token stays as it is written.
-/

namespace PipedQuery

/-- Whether nothing but letter case tells the tokens apart. -/
structure Token.SameButCase (x y : Token) : Prop where
  kind : x.kind = y.kind
  channel : x.kind.channel = y.kind.channel
  span : x.span = y.span
  line : x.place.line = y.place.line
  column : x.place.column = y.place.column
  text : x.text.map Char.toLower = y.text.map Char.toLower

/-- Tokens that are the same in lower case differ by letter case only. -/
theorem Token.sameButCase_of_lower_eq {x y : Token} (same : x.lower = y.lower) : x.SameButCase y := by
  have lexeme : x.toLexeme.lower = y.toLexeme.lower := congrArg Token.toLexeme same
  have place : x.lower.place = y.lower.place := congrArg Token.place same
  have kind : x.kind = y.kind := by rw [← x.lower_kind, lexeme, y.lower_kind]
  refine ⟨kind, congrArg TokenKind.channel kind, ?_, congrArg Position.line place,
    congrArg Position.column place, ?_⟩
  · rw [← x.lower_span, same, y.lower_span]
  · rw [← x.map_toLower_lower, lexeme, y.map_toLower_lower]

/-- The text of a token is what its span covers of the text, letter by letter. -/
theorem sliceBytes_span {text : String} {t : Token} (member : t ∈ scan text) :
    sliceBytes t.span.start t.span.stop text.toList = some t.text.toList := by
  obtain ⟨before, after, split⟩ := List.append_of_mem member
  have slice := sliceBytes_append (charsOf before) t.text.toList (charsOf after)
  rw [String.ofList_toList, ← span_start_of_split split] at slice
  rw [← charsOf_of_split split]
  exact slice

/-! Commands. -/

/-- Letter case does not move a pipe. -/
theorem splitPipes_map_lower (ls : List Lexeme) :
    splitPipes (ls.map .lower) = (splitPipes ls).map (List.map .lower) := by
  induction ls with
  | nil => rfl
  | cons l ls ih =>
    rw [List.map_cons, splitPipes, splitPipes, ih, Lexeme.lower_kind]
    split
    · rfl
    · cases splitPipes ls <;> rfl

/-- The command of a stage has the same name when all letters are lowered, and is missing alike. -/
theorem name_stageCommand_map_lower (first : Bool) (ls : List Lexeme) :
    (stageCommand first (ls.map .lower)).map Command.name =
      (stageCommand first ls).map Command.name := by
  have parallel := Parser.parallel_command (Grammar.ignoresCase_level maxNesting) first
  have alike := (parallel.at_ ls).result
  rw [Session.stageCommand_eq, Session.stageCommand_eq, Grammar.full]
  generalize (Parser.command (Grammar.level maxNesting) first ls).result = r,
    (Parser.command (Grammar.level maxNesting) first (ls.map .lower)).result = r' at alike ⊢
  cases alike with
  | error => rfl
  | ok c d same => exact congrArg some same.symm

/-- The stages have commands of the same names in lower case. -/
theorem names_stageCommands_map_lower (first : Bool) (stages : List (List Lexeme)) :
    (stageCommands first (stages.map (List.map .lower))).map Command.name =
      (stageCommands first stages).map Command.name := by
  have stage (first : Bool) (ls : List Lexeme) :
      (stageCommand first (ls.map .lower)).toList.map Command.name =
        (stageCommand first ls).toList.map Command.name := by
    rw [← Option.toList_map, name_stageCommand_map_lower, Option.toList_map]
  cases stages with
  | nil => rfl
  | cons ls more =>
    simp only [List.map_cons, stageCommands, List.map_append, stage, List.map_flatMap,
      List.flatMap_map]

/-- A text in lower case has the lexemes of the text, in lower case. -/
theorem significant_map_toLower (text : String) :
    (Scan.lexemes (text.map Char.toLower).toList).filter Lexeme.isSignificant =
      ((Scan.lexemes text.toList).filter Lexeme.isSignificant).map .lower := by
  have significant : (fun t : Token => t.isSignificant) ∘ Token.lower = fun t => t.isSignificant :=
    funext fun t => congrArg (fun kind => decide (TokenKind.channel kind = .default)) t.lower_kind
  rw [← significant_scan, ← significant_scan, scan_map_toLower, List.filter_map, significant,
    List.map_map, List.map_map]
  rfl

/-- The commands of a query have the same names when all letters are lowered. -/
theorem commandNames_map_toLower (text : String) :
    (parse (text.map Char.toLower)).query.commandNames = (parse text).query.commandNames := by
  rw [Query.commandNames, Query.commandNames, parse, parse, commands_parseWith rfl,
    commands_parseWith rfl, significant_map_toLower, splitPipes_map_lower,
    names_stageCommands_map_lower]

/-- Texts that are equal up to letter case have as many tokens, which differ in nothing but the letter
    case of their texts, each of which is written as the token is.  Their queries have the same
    commands by name. -/
theorem scan_parse_of_map_toLower_eq {t u : String} (same : t.map Char.toLower = u.map Char.toLower) :
    (scan t).length = (scan u).length ∧
      List.Forall₂ Token.SameButCase (scan t) (scan u) ∧
      (∀ x ∈ scan t, sliceBytes x.span.start x.span.stop t.toList = some x.text.toList) ∧
      (∀ y ∈ scan u, sliceBytes y.span.start y.span.stop u.toList = some y.text.toList) ∧
      (parse t).query.commandNames = (parse u).query.commandNames := by
  have tokens := forall₂_scan same
  refine ⟨tokens.length_eq, tokens.imp fun _ _ => Token.sameButCase_of_lower_eq,
    fun _ => sliceBytes_span, fun _ => sliceBytes_span, ?_⟩
  rw [← commandNames_map_toLower t, same, commandNames_map_toLower u]

/-- Neither keywords nor `else`, the name of a cluster, a unit of time or a string have a letter case
    of their own. -/
theorem scan_parse_mixed_case :
    let t := "Source=Logs:@A | WHERE Case(B, 'x' ELSE Interval 2 Day) | Stats C BY Span(T, 1 H)"
    let u := "sOURCE=lOGS:@a | where cASE(b, 'X' else iNTERVAL 2 dAY) | sTATS c by sPAN(t, 1 h)"
    t.map Char.toLower = u.map Char.toLower ∧
      List.Forall₂ Token.SameButCase (scan t) (scan u) ∧
      (parse t).query.commandNames = (parse u).query.commandNames ∧
      (parse u).query.commandNames = ["search", "where", "stats"] := by
  intro t u
  have letters : t.toList.map Char.toLower = u.toList.map Char.toLower ∧
      (parse u).query.commandNames = ["search", "where", "stats"] := by
    decide +kernel
  have same : t.map Char.toLower = u.map Char.toLower := by
    rw [← String.toList_inj, String.toList_map, String.toList_map]
    exact letters.1
  obtain ⟨-, tokens, -, -, names⟩ := scan_parse_of_map_toLower_eq same
  exact ⟨same, tokens, names, letters.2⟩

end PipedQuery
