import PipedQuery.Proofs.Command.WellFormed
import PipedQuery.Proofs.Grammar.KeptStages
import PipedQuery.Proofs.Pipeline.Sessions

/-!
# Parsed commands are well-formed

Every command of every query is well-formed, also where the text is wrong and parsing recovers
(`wellFormed_parseWith`).
-/

namespace PipedQuery

/-- A command that is read of genuine lexemes has all its parts, and its expressions are
    well-formed. -/
theorem kept_of_stageCommand {first : Bool} {ts : List Lexeme} {c : Command} (genuine : Genuine ts)
    (found : stageCommand first ts = some c) : c.Kept (fun _ => True) Expr.WellFormed := by
  have grammar : Grammar.full.Gives (fun _ => True) Expr.WellFormed :=
    Grammar.gives_level Grammar.keeps_wellFormed maxNesting
  have given := (Parser.gives_stage grammar (fun _ unsigned => .literal unsigned.isSignless)
    first).run genuine fun _ _ => trivial
  unfold stageCommand at found
  cases result : (Parser.stage first ts).result with
  | error issue =>
    rw [result] at found
    cases found
  | ok command =>
    rw [result] at found
    exact (given.value result).command c found

/-- A command that is read of genuine lexemes is well-formed. -/
theorem wellFormed_of_stageCommand {first : Bool} {ts : List Lexeme} {c : Command}
    (genuine : Genuine ts) (found : stageCommand first ts = some c) : c.WellFormed :=
  (kept_of_stageCommand genuine found).wellFormed

/-- Every command of a query is well-formed, whatever is wrong with the text. -/
theorem wellFormed_parseWith (options : ParseOptions) (text : String) :
    ∀ c ∈ (parseWith options text).query.commands, c.WellFormed := by
  intro c member
  obtain ⟨first, stage, inside, found, -⟩ := Session.exists_stage_of_mem member
  rw [Session.parseStage_command] at found
  exact wellFormed_of_stageCommand (Session.genuine_of_mem_stages inside) found

/-- Behind a stage that is broken, the command that was recovered is well-formed too. -/
theorem wellFormed_parseWith_recovered :
    ∃ c ∈ (parseWith { recover := true } "source=t | stats by x | head 9 from 2").query.commands,
      c.name = "head" ∧ c.WellFormed := by
  have names : (parseWith { recover := true } "source=t | stats by x | head 9 from 2").query.commands.map
      Command.name = ["search", "head"] := by
    decide +kernel
  have named : "head" ∈ ["search", "head"] := by decide
  rw [← names] at named
  obtain ⟨c, member, name⟩ := List.mem_map.mp named
  exact ⟨c, member, name, wellFormed_parseWith _ _ c member⟩

end PipedQuery
