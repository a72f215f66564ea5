import PipedQuery.Proofs.Cursor.Query
import PipedQuery.Proofs.Scan.Boundary

/-!
# Stages do not reach each other

A query that is read in one pass, with recovery, has the commands of its stages, each read by itself
(`Cursor.commands_parseWith`).  So it may be cut at any pipe that stands in no quotation, and the
commands of the two parts are those of the whole (`commands_append_pipe`).
-/

namespace PipedQuery

/-- Where no quotation of a text is open, what is behind it is scanned by itself. -/
theorem closed_of_scan {text : String}
    (closed : ∀ t ∈ scan text, t.kind.isQuoted = true → (unquote t.text).terminated = true) :
    Scan.Closed text.toList := by
  intro l member
  rw [← lexemes_scan] at member
  obtain ⟨t, found, rfl⟩ := List.mem_map.mp member
  exact closed t (List.mem_filter.mp found).1

/-- A pipe outside quotations cuts the significant lexemes of a text. -/
theorem splitPipes_append_bar {before : String} (closed : Scan.Closed before.toList)
    (behind : String) :
    splitPipes ((Scan.lexemes (before ++ "|" ++ behind).toList).filter Lexeme.isSignificant) =
      splitPipes ((Scan.lexemes before.toList).filter Lexeme.isSignificant) ++
        splitPipes ((Scan.lexemes behind.toList).filter Lexeme.isSignificant) := by
  have bar : ("|" : String).toList = ['|'] := rfl
  rw [String.toList_append, String.toList_append, List.append_assoc, bar, List.cons_append,
    List.nil_append, Scan.lexemes_append (Scan.stops_cons.mpr rfl) closed, Scan.lexemes_plainMark rfl,
    List.filter_append, List.filter_cons_of_pos rfl, splitPipes_append_pipe]

/-- The commands of some stages, where the first one has the given number in its query. -/
theorem filterMap_zipIdx_stages (stages : List (List Lexeme)) (first : Bool) {n : Nat}
    (number : first = decide (n = 0)) :
    ((stages.zipIdx n).filterMap fun (stage, i) =>
        (Parser.command Grammar.full (i = 0) stage).result.toOption) =
      stageCommands first stages := by
  induction stages generalizing first n with
  | nil => rfl
  | cons stage more ih =>
    have later := ih false (n := n + 1) (decide_eq_false (Nat.succ_ne_zero n)).symm
    rw [List.zipIdx_cons, List.filterMap_cons, later, stageCommands, ← stageCommands_false,
      Session.stageCommand_eq, number]
    dsimp only
    cases (Parser.command Grammar.full (decide (n = 0)) stage).result <;> rfl

/-- What is read in one pass, with recovery, are the commands of the stages. -/
theorem Cursor.commands_parseWith {options : ParseOptions} (recover : options.recover = true)
    (text : String) :
    (Cursor.parseWith options text).query.commands =
      stageCommands true
        (splitPipes ((Scan.lexemes text.toList).filter Lexeme.isSignificant)) := by
  rw [parseWith_eq, PipedQuery.commands_parseWith recover]

/-- Parsing in one pass, with recovery, gives the command of every stage that has one, as it is read
    from the lexemes of that stage alone.  So the commands of a query are those before any pipe and
    those from that pipe on, whatever is wrong with either part, unless a quotation before the pipe
    has no end.  Parsing stage by stage is the same. -/
theorem commands_append_pipe {options : ParseOptions} (recover : options.recover = true) :
    (∀ before behind : String,
      (∀ t ∈ scan before, t.kind.isQuoted = true → (unquote t.text).terminated = true) →
        (Cursor.parseWith options (before ++ "|" ++ behind)).query.commands =
          (Cursor.parseWith options before).query.commands ++
            (Cursor.parseWith options ("|" ++ behind)).query.commands) ∧
    ∀ text : String,
      Cursor.parseWith options text = parseWith options text ∧
        (Cursor.parseWith options text).query.commands =
          (splitPipes ((Scan.lexemes text.toList).filter Lexeme.isSignificant)).zipIdx.filterMap
            fun (stage, i) => (Parser.command Grammar.full (i = 0) stage).result.toOption := by
  refine ⟨fun before behind closed => ?_, fun text => ⟨Cursor.parseWith_eq options text, ?_⟩⟩
  · have empty : (Scan.lexemes ("" : String).toList) = [] := by
      rw [String.toList_empty, Scan.lexemes_nil]
    have closedEmpty : Scan.Closed ("" : String).toList := by
      rw [Scan.Closed, empty]
      exact List.forall_mem_nil _
    have tail := splitPipes_append_bar closedEmpty behind
    rw [String.empty_append, empty] at tail
    rw [Cursor.commands_parseWith recover, Cursor.commands_parseWith recover,
      Cursor.commands_parseWith recover, splitPipes_append_bar (closed_of_scan closed), tail,
      stageCommands_append true (splitPipes_ne_nil _),
      stageCommands_append true (splitPipes_ne_nil _)]
    rfl
  · rw [Cursor.commands_parseWith recover]
    exact (filterMap_zipIdx_stages _ true rfl).symm

/-- A query is cut at its first pipe outside a string, where a broken stage comes before and behind
    it. -/
theorem commands_append_pipe_broken_stages :
    let before := "where x = | where 'a|b' = ("
    let behind := " fields y, | head 5"
    (Cursor.parseWith {} (before ++ "|" ++ behind)).query.commands =
      (Cursor.parseWith {} before).query.commands ++
        (Cursor.parseWith {} ("|" ++ behind)).query.commands :=
  (commands_append_pipe rfl).1 _ _ (by decide +kernel)

end PipedQuery
