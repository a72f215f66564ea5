import PipedQuery.Proofs.Grammar.Options
import PipedQuery.Proofs.Pipeline.Accounted

/-!
# Unknown options

An option that `dedup` does not know, put in at any place between the options of a stage without
diagnostics, is dropped with one diagnostic if its value has no sign.  With a sign the number is left,
and the stage ends in front of it.  `kmeans` and `ad` drop what they do not know whatever its value is
(`parseStage_unknownOption`).
-/

namespace PipedQuery

/-- An option `name=value` with a name that is no reserved word and a constant for a value. -/
structure UnknownOption where
  name : Token
  equal : Token
  value : List Token
  identifier : name.kind = .identifier
  sign : equal.kind = .mark .equal
  constant : ∃ v, Parser.literal (value.map Token.toLexeme) = ⟨.ok v, [], []⟩

namespace UnknownOption

/-- The tokens of the option, in the order in which they are written. -/
def tokens (o : UnknownOption) : List Token := o.name :: o.equal :: o.value

/-- Whether the value is a number with a sign. -/
def isSigned (o : UnknownOption) : Bool := Parser.startsNegative (o.value.map Token.toLexeme)

/-- The diagnostic at the name. -/
def diagnostic (o : UnknownOption) (message : String) : Diagnostic :=
  ⟨.invalidOptionName, message, o.name.span, o.name.place.line, o.name.place.column⟩

end UnknownOption

/-- An issue in front of a token is diagnosed at the token. -/
theorem Stage.diagnose_append (before : List Token) (t : Token) (us : List Token)
    (pipe : Option Token) (stop : Position) (cause : Cause) :
    (⟨before ++ t :: us, pipe⟩ : Stage).diagnose stop ⟨cause, us.length + 1⟩ =
      cause.diagnose stop (some t) := by
  simp [diagnose, tokenAt]

namespace Session

variable {stop : Position} {first : Bool} {stage : Stage}

/-- A stage without diagnostics is read to its end by one command without issues. -/
theorem command_of_clean (clean : (parseStage stop first stage).2 = []) :
    ∃ c, (parseStage stop first stage).1 = some c ∧
      Parser.command Grammar.full first stage.lexemes = ⟨.ok c, [], []⟩ := by
  obtain ⟨c, raised, given, read⟩ := command_of_warnings fun d member => by
    rw [clean] at member
    cases member
  rw [parseStage_of_command read] at clean
  have none : raised = [] := by simpa using clean
  exact ⟨c, given, none ▸ read⟩

end Session

namespace UnknownOption

/-- The stage with the option put in. -/
def putIn (o : UnknownOption) (before after : List Token) (pipe : Option Token) : Stage :=
  ⟨before ++ (o.tokens ++ after), pipe⟩

variable {o : UnknownOption} {before after : List Token} {pipe : Option Token} {stop : Position}
  {first : Bool} {cause : Cause} {c : Command}

/-- The lexemes of the option stand between those in front of it and those behind. -/
theorem lexemes_putIn (pipe : Option Token) : (o.putIn before after pipe).lexemes =
    before.map Token.toLexeme ++ o.name.toLexeme :: o.equal.toLexeme ::
      (o.value.map Token.toLexeme ++ after.map Token.toLexeme) := by
  simp [putIn, Stage.lexemes, tokens]

/-- What is found two lexemes ahead of the value is about the name of the option. -/
theorem diagnose_name :
    (o.putIn before after pipe).diagnose stop ⟨cause,
      (o.value.map Token.toLexeme ++ after.map Token.toLexeme).length + 2⟩ =
        cause.diagnose stop (some o.name) := by
  have here := Stage.diagnose_append before o.name (o.equal :: (o.value ++ after)) pipe stop cause
  simpa [putIn, tokens] using here

/-- What is found at the number of a signed value is about that number. -/
theorem diagnose_number {minus number : Token} (value : o.value = [minus, number]) :
    (o.putIn before after pipe).diagnose stop ⟨cause,
      (number.toLexeme :: after.map Token.toLexeme).length⟩ =
        cause.diagnose stop (some number) := by
  have here :=
    Stage.diagnose_append (before ++ [o.name, o.equal, minus]) number after pipe stop cause
  simpa [putIn, tokens, value] using here

/-- What `dedup` says about a name that it does not know. -/
theorem diagnose_dedup : (Cause.unknownCommandOption o.name.text "dedup").diagnose stop (some o.name) =
    o.diagnostic ("`" ++ o.name.text ++ "` is not an option of dedup") :=
  congrArg o.diagnostic String.append_assoc

/-- A stage of which everything is read, with an issue at the name of the option. -/
theorem parseStage_dropped
    (read : Parser.command Grammar.full first (o.putIn before after pipe).lexemes =
      ⟨.ok c, [], [⟨cause, (o.value.map Token.toLexeme ++ after.map Token.toLexeme).length + 2⟩]⟩) :
    Session.parseStage stop first (o.putIn before after pipe) =
      (some c, [cause.diagnose stop (some o.name)]) := by
  rw [Session.parseStage_of_command read, if_pos rfl, List.append_nil, List.map_singleton,
    diagnose_name]

/-- A stage that is read up to the number of the option, with an issue at its name. -/
theorem parseStage_cut {minus number : Token} (value : o.value = [minus, number])
    (read : Parser.command Grammar.full first (o.putIn before after pipe).lexemes =
      ⟨.ok c, number.toLexeme :: after.map Token.toLexeme,
        [⟨cause, (o.value.map Token.toLexeme ++ after.map Token.toLexeme).length + 2⟩]⟩) :
    Session.parseStage stop first (o.putIn before after pipe) =
      (some c, [cause.diagnose stop (some o.name),
        (Cause.expected .stageEnd).diagnose stop (some number)]) := by
  rw [Session.parseStage_of_command read, if_neg (List.cons_ne_nil _ _), List.map_append,
    List.map_singleton, List.map_singleton, diagnose_name, diagnose_number value]
  rfl

end UnknownOption

/-- An unknown option is put in between the options of a stage without diagnostics.  `dedup` drops it
    if its value has no sign.  Otherwise the number is left, and with it all options behind it.
    `kmeans` and `ad` drop it in any case. -/
theorem parseStage_unknownOption (o : UnknownOption) {stop : Position} {first : Bool}
    {stage : Stage} {before after : List Token} (stop' : Position) (pipe : Option Token)
    (clean : (Session.parseStage stop first stage).2 = [])
    (whole : stage.lexemes = (before ++ after).map Token.toLexeme)
    (between : BetweenOptions (after.map Token.toLexeme)) :
    let keyword := firstKind stage.lexemes
    let parsed := (Session.parseStage stop first stage).1
    let more := Session.parseStage stop' first (o.putIn before after pipe)
    (keyword = some (.keyword .dedup) → ∃ d, parsed = some (.dedup d) ∧
      let unknown := o.diagnostic ("`" ++ o.name.text ++ "` is not an option of dedup")
      (o.isSigned = false → more = (some (.dedup d), [unknown])) ∧
      (o.isSigned = true → ∃ d' minus number, o.value = [minus, number] ∧
        Session.parseStage stop' first ⟨before, pipe⟩ = (some (.dedup d'), []) ∧
        more = (some (.dedup d'),
          [unknown, (Cause.expected .stageEnd).diagnose stop' (some number)]))) ∧
    ∀ algorithm, algorithm ≠ .ml → keyword = some (.keyword algorithm.keyword) → ∃ params,
      parsed = some (.learn algorithm params) ∧
        more = (some (.learn algorithm params),
          [o.diagnostic ("`" ++ o.name.text ++ "` is not a parameter of " ++ algorithm.name)]) := by
  intro keyword parsed more
  obtain ⟨c, given, found⟩ := Session.command_of_clean clean
  obtain ⟨v, constant⟩ := o.constant
  have same : stage.lexemes = before.map Token.toLexeme ++ after.map Token.toLexeme := by
    rw [whole, List.map_append]
  simp only [keyword, parsed, more, given, same] at found ⊢
  refine ⟨fun dedup => ?_, fun algorithm reserved learn => ?_⟩
  · obtain ⟨d, rfl⟩ := (Parser.endsInOptions_dedup Grammar.full first).exists_make dedup found
    refine ⟨d, rfl, fun unsigned => ?_, fun signed => ?_⟩
    · have read := Parser.dedup_dropped o.identifier o.sign constant found between dedup unsigned
      rw [← UnknownOption.lexemes_putIn pipe] at read
      rw [UnknownOption.parseStage_dropped read, UnknownOption.diagnose_dedup]
    · obtain ⟨d', _, _, value, alone, read⟩ :=
        Parser.dedup_cut o.identifier o.sign constant found between dedup signed
      rw [← UnknownOption.lexemes_putIn pipe] at read
      obtain ⟨minus, _, split, rfl, single⟩ := List.map_eq_cons_iff.mp value
      obtain ⟨number, rfl, rfl⟩ := List.map_eq_singleton_iff.mp single
      have alone : Parser.command Grammar.full first (Stage.mk before pipe).lexemes =
        ⟨.ok (.dedup d'), [], []⟩ := alone
      refine ⟨d', minus, number, split, Session.parseStage_of_command alone, ?_⟩
      rw [UnknownOption.parseStage_cut split read, UnknownOption.diagnose_dedup]
  · obtain ⟨params, rfl⟩ :=
      (Parser.endsInOptions_learn algorithm Grammar.full first).exists_make learn found
    have read := Parser.learn_dropped o.identifier o.sign constant found between reserved learn
    rw [← UnknownOption.lexemes_putIn pipe] at read
    exact ⟨params.reverse, rfl, UnknownOption.parseStage_dropped read⟩

/-- What the command says if it is a `dedup`. -/
def Command.dedup? : Command → Option Dedup
  | .dedup d => some d
  | _ => none

/-- `foo=5` between the fields and the option of a `dedup`. -/
theorem parseStage_unknownOption_unsigned :
    let before : List Token :=
      [⟨⟨.keyword .dedup, "dedup"⟩, ⟨0, 1, 1⟩⟩, ⟨⟨.identifier, "a"⟩, ⟨6, 1, 7⟩⟩]
    let o : UnknownOption :=
      ⟨⟨⟨.identifier, "foo"⟩, ⟨8, 1, 9⟩⟩, ⟨⟨.mark .equal, "="⟩, ⟨11, 1, 12⟩⟩,
        [⟨⟨.integer, "5"⟩, ⟨12, 1, 13⟩⟩], rfl, rfl, .int 5, rfl⟩
    let after : List Token :=
      [⟨⟨.keyword .keepempty, "keepempty"⟩, ⟨14, 1, 15⟩⟩, ⟨⟨.mark .equal, "="⟩, ⟨23, 1, 24⟩⟩,
        ⟨⟨.keyword .true_, "true"⟩, ⟨24, 1, 25⟩⟩]
    let stage := o.putIn before after none
    stage.tokens = ((scan "dedup a foo=5 keepempty=true").filter fun t => t.isSignificant) ∧
      Session.parseStage ⟨28, 1, 29⟩ true stage =
        (some (.dedup ⟨none, ["a"], some true, none, none, none⟩),
          [⟨.invalidOptionName, "`foo` is not an option of dedup", ⟨8, 11⟩, 1, 9⟩]) := by
  intro before o after stage
  have known :
      let parsed := Session.parseStage ⟨28, 1, 29⟩ true ⟨before ++ after, none⟩
      parsed.1.bind Command.dedup? = some ⟨none, ["a"], some true, none, none, none⟩ ∧
        parsed.2 = [] := by
    decide +kernel
  obtain ⟨known, clean⟩ := known
  obtain ⟨d, parsed, dropped, -⟩ :=
    (parseStage_unknownOption o ⟨28, 1, 29⟩ none clean rfl (.inr rfl)).1 rfl
  rw [parsed] at known
  cases known
  exact ⟨by decide +kernel, dropped rfl⟩

/-- Behind an unknown option with a sign `dedup` has no more options. -/
theorem parse_unknownOption_signed :
    let dedups (text : String) := (parse text).query.commands.map Command.dedup?
    dedups "dedup a keepempty=true" = [some ⟨none, ["a"], some true, none, none, none⟩] ∧
      (parse "dedup a keepempty=true").diagnostics.length = 0 ∧
      dedups "dedup a foo=-5 keepempty=true" = [some ⟨none, ["a"], none, none, none, none⟩] ∧
      (parse "dedup a foo=-5 keepempty=true").diagnostics.length = 2 := by
  intro dedups
  have length (text : String) :
      (parse text).diagnostics.length = ((findings text).take 100).length := by
    rw [parse, diagnostics_parseWith rfl, Diagnostic.length_sorted]
  rw [length, length]
  decide +kernel

end PipedQuery
