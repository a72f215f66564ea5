import PipedQuery.Grammar.Aggregate
import PipedQuery.Pattern.Capture
import PipedQuery.Pattern.Check

/-!
# Stages that extract and learn

The commands `parse`, `grok` and `patterns`, which take fields out of a text, and `kmeans`, `ad` and
`ml`, which run a learning algorithm.  Each parser starts at the command's keyword.
-/

namespace PipedQuery

/-- The type of a parameter of `kmeans` or `ad`. -/
def ParameterType.ofKeyword? : Keyword → Option ParameterType
  | .centroids | .iterations | .numberOfTrees | .shingleSize | .sampleSize | .outputAfter
  | .trainingDataSize => some .integer
  | .timeDecay | .anomalyRate | .anomalyScoreThreshold => some .number
  | .distanceType | .categoryField | .timeField | .timeZone => some .text
  | _ => none

/-- Whether a value is of the type. -/
def ParameterType.accepts (type : ParameterType) (value : Literal) : Bool :=
  match type with
  | .integer => value.asInt?.isSome
  | .number => value.isNumeric
  | .text => value.asString?.isSome

/-- The field that `patterns` fills if no other is named. -/
def defaultPatternsField : String := "patterns_field"

namespace Parser

variable {σ : Type} [Input σ]

/-- A quoted pattern. -/
def pattern : Parser σ String := do
  match ← string? with
  | some s => return s
  | none => fail (.expected .pattern)

/-- A stage `parse field 'regex'`.  The named groups become new fields.  Those of a pattern with a flaw
    are found by their spelling. -/
def parse : Parser σ Command := do
  skip 1
  let source ← fieldName
  let place ← remaining
  let pattern ← pattern
  let newFields ← match Pattern.groupNames? pattern with
    | .ok names => pure names
    | .error flaw => do
      raiseAt place (.uncheckedPattern flaw)
      pure (Pattern.writtenGroupNames pattern)
  if newFields.isEmpty then
    raiseAt place .noNamedGroup
  return .extract ⟨.regex, source, some pattern, newFields⟩

/-- A stage `grok field 'pattern'`.  The named captures become new fields. -/
def grok : Parser σ Command := do
  skip 1
  let source ← fieldName
  let place ← remaining
  let pattern ← pattern
  let newFields := Pattern.grokFields pattern
  if newFields.isEmpty then
    raiseAt place .noGrokField
  return .extract ⟨.grok, source, some pattern, newFields⟩

/-- The options of `patterns`: the new field and the pattern. -/
structure PatternsOptions where
  newField : Option String
  pattern : Option String

/-- The next option of `patterns`, if one comes next. -/
def patternsOption? (o : PatternsOptions) : Parser σ (Option PatternsOptions) := do
  unless ← atAssignment do
    return none
  if ← atOption .newField then
    skip 2
    return some { o with newField := some (← string) }
  if ← atOption .pattern then
    skip 2
    let place ← remaining
    let pattern ← pattern
    if let .error flaw := Pattern.groupNames? pattern then
      raiseAt place (.uncheckedPattern flaw)
    return some { o with pattern := some pattern }
  skipUnknownOption "patterns"
  return some o

/-- A stage `patterns options field`. -/
def patterns : Parser σ Command := do
  skip 1
  let o ← iterate patternsOption? ⟨none, none⟩
  need .patternsField
  let source ← fieldName
  return .extract ⟨.patterns, source, o.pattern, [o.newField.getD defaultPatternsField]⟩

/-- Whether an algorithm takes a parameter of the given name at all, and if so of which type.  `ml`
    takes any parameter of any type. -/
def parameterType? (algorithm : Algorithm) (name : TokenKind) :
    Option (Option ParameterType) :=
  match algorithm, name with
  | .ml, _ => some none
  | .kmeans, .keyword k => if k.isKmeansOption then some (ParameterType.ofKeyword? k) else none
  | .ad, .keyword k => if k.isAdOption then some (ParameterType.ofKeyword? k) else none
  | _, _ => none

/-- The next parameter of a learning algorithm, unless the stage is at its end.  An unknown
    parameter or one of the wrong type is reported and dropped.  The parameters that have been read
    are given last ones first. -/
def parameter? (algorithm : Algorithm) (params : List Parameter) :
    Parser σ (Option (List Parameter)) := do
  if ← atEnd then
    return none
  unless ← atAssignment do
    fail (.expected .assignment)
  let place ← remaining
  match ← peek with
  | none => return none
  | some name =>
    skip 2
    let valuePlace ← remaining
    let value ← literal
    let lowerName := name.text.map Char.toLower
    match parameterType? algorithm name.kind with
    | none =>
      raiseAt place (.unknownParameter name.text algorithm.name)
      return some params
    | some type =>
      match type.filter fun type => !type.accepts value with
      | some type =>
        raiseAt valuePlace (.wrongParameterType lowerName type value.typeName)
        return some params
      | none => return some (⟨lowerName, value⟩ :: params)

/-- A stage that runs a learning algorithm. -/
def learn (algorithm : Algorithm) : Parser σ Command := do
  skip 1
  let params ← iterate (parameter? algorithm) []
  return .learn algorithm params.reverse

/-- A stage, whose expressions the grammar reads.  The first stage of a query is a search if it starts
    with no command. -/
def command (grammar : Grammar σ) (first : Bool) : Parser σ Command := do
  match firstKind (← lexemes) with
  | some (.keyword .search) =>
    skip 1
    searchBody grammar
  | some (.keyword .describe) => describe
  | some (.keyword .show_) => showDatasources
  | some (.keyword .where_) => filter grammar
  | some (.keyword .fields) => fields
  | some (.keyword .rename) => rename
  | some (.keyword .stats) => stats grammar
  | some (.keyword .dedup) => dedup
  | some (.keyword .sort) => sort
  | some (.keyword .eval) => eval grammar
  | some (.keyword .head) => head
  | some (.keyword .top) => return .top (← rank)
  | some (.keyword .rare) => return .rare (← rank)
  | some (.keyword .parse) => parse
  | some (.keyword .grok) => grok
  | some (.keyword .patterns) | some (.keyword .pattern) => patterns
  | some (.keyword .kmeans) => learn .kmeans
  | some (.keyword .ad) => learn .ad
  | some (.keyword .ml) => learn .ml
  | some kind =>
    if first && kind ≠ .mark .pipe then searchBody grammar else fail (.expected .command)
  | none => fail (.expected .command)

/-- A whole stage, whose expressions the grammar reads.  What is left behind a command is reported and
    passed over, and so is what is left where a command went wrong, which then is lost. -/
def stageWith (grammar : Grammar σ) (first : Bool) : Parser σ (Option Command) := do
  match ← attempt (command grammar first) with
  | .ok c =>
    unless ← atEnd do
      raiseAt (← remaining) (.expected .stageEnd)
    skipAll
    return some c
  | .error issue =>
    raise issue
    skipAll
    return none

/-- A whole stage. -/
def stage (first : Bool) : StageParser (Option Command) := stageWith Grammar.full first

end Parser

end PipedQuery
