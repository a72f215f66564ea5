import PipedQuery.Command
import PipedQuery.Grammar.Expression

/-!
# Stages that read, keep and order rows

The commands `search`, `describe`, `show datasources`, `where`, `fields`, `rename`, `eval`, `sort`
and `head`.  Each parser starts at the command's keyword.  Those of commands with expressions take
the grammar for them, which tells how deep they may nest.
-/

namespace PipedQuery

namespace Parser

variable {σ : Type} [Input σ]

/-- Stops if nothing is left for a clause. -/
def need (clause : Clause) : Parser σ Unit := do
  if ← atEnd then
    fail (.missing clause)

/-- An expression of any depth up to the limit. -/
def expression : StageParser Expr := Grammar.full.expression

/-- Whether a clause `source=` or `index=` comes next. -/
def startsSourceClause (ts : List Lexeme) : Bool := startsOption .source ts || startsOption .index ts

/-- The source of a name with a colon in it, which is the name of a cluster and that of an index. -/
def sourceOfWord (word : String) : DataSource :=
  let cs := word.toList
  if ':' ∈ cs then
    ⟨some (String.ofList (cs.takeWhile (· != ':'))),
      String.ofList (cs.dropWhile (· != ':')).tail⟩
  else .ofName word

/-- A source: a name with a cluster or a date suffix, a star, a string, or a dotted name, behind a
    dot if it is hidden. -/
def dataSource : Parser σ DataSource := do
  match ← peek with
  | none => fail (.expected .sourceName)
  | some l =>
    match l.kind with
    | .clusterName | .datedName =>
      if l.text.toList.head? = some '@' then
        return .ofName (← qualifiedName true)
      else
        skip 1
        return sourceOfWord l.text
    | .mark .star =>
      skip 1
      return .ofName "*"
    | .quoted .double | .quoted .single =>
      skip 1
      return .ofName (unquote l.text).value
    | .mark .dot =>
      skip 1
      return .ofName ("." ++ (← qualifiedName true))
    | _ => return .ofName (← qualifiedName true)

/-- The clause `source=` or `index=`, of which the word comes next. -/
def sourceClause : Parser σ (List DataSource) := do
  skip 1
  expectMark .equal
  lenientList dataSource

/-- A search behind its keyword: the clause on the sources, and a filter on either side of it. -/
def searchBody (grammar : Grammar σ) : Parser σ Command := do
  if startsSourceClause (← lexemes) then
    let sources ← sourceClause
    if ← atEnd then
      return .search ⟨sources, none⟩
    return .search ⟨sources, some (← grammar.expression)⟩
  need .searchSource
  let filter ← grammar.expression
  unless startsSourceClause (← lexemes) do
    fail (.missing .searchSource)
  return .search ⟨← sourceClause, some filter⟩

/-- A stage `describe source`. -/
def describe : Parser σ Command := do
  skip 1
  need .describedSource
  return .describe (← dataSource)

/-- The stage `show datasources`. -/
def showDatasources : Parser σ Command := do
  skip 1
  expectKeyword .datasources
  return .showDatasources

/-- A stage `where condition`. -/
def filter (grammar : Grammar σ) : Parser σ Command := do
  skip 1
  need .condition
  return .filter (← grammar.expression)

/-- A stage `fields names`, with a sign that tells whether to keep or to drop them. -/
def fields : Parser σ Command := do
  skip 1
  let exclude ← eatMark .minus
  unless exclude do
    discard (eatMark .plus)
  need .fieldsToKeep
  return .fields exclude (← lenientList fieldName)

/-- A renaming `old as new`. -/
def renamePair : Parser σ Renaming := do
  let old ← fieldName
  expectKeyword .as_
  return ⟨old, ← fieldName⟩

/-- A stage `rename old as new, ...`. -/
def rename : Parser σ Command := do
  skip 1
  need .renaming
  return .rename (← lenientList renamePair)

/-- An assignment `field = value`. -/
def assignment (grammar : Grammar σ) : Parser σ Assignment := do
  let field ← fieldName
  expectMark .equal
  return ⟨field, ← grammar.expression⟩

/-- A stage `eval field = value, ...`. -/
def eval (grammar : Grammar σ) : Parser σ Command := do
  skip 1
  need .assignment
  return .eval (← lenientList (assignment grammar))

/-- The comparison hint that comes next, if it is one and a parenthesis follows it. -/
def startsSortCast? (ts : List Lexeme) : Option SortCast :=
  if secondKind ts = some (.mark .lParen) then
    (firstKind ts).bind TokenKind.keyword? |>.bind SortCast.ofKeyword?
  else none

/-- A sort key: an optional sign, a field with or without a comparison hint, and an optional word
    for descending order. -/
def sortKey : Parser σ SortKey := do
  let minus ← eatMark .minus
  unless minus do
    discard (eatMark .plus)
  let cast := startsSortCast? (← lexemes)
  let field ←
    if cast.isSome then do
      skip 2
      let field ← fieldName
      expectMark .rParen
      pure field
    else fieldName
  if ← eatKeyword .desc then
    return ⟨field, .descending, cast⟩
  if ← eatKeyword .d then
    return ⟨field, .descending, cast⟩
  return ⟨field, if minus then .descending else .ascending, cast⟩

/-- A stage `sort keys`. -/
def sort : Parser σ Command := do
  skip 1
  need .sortField
  return .sort (← lenientList sortKey)

/-- A stage `head size from offset`, with both parts optional. -/
def head : Parser σ Command := do
  skip 1
  let size ← integer?
  if ← eatKeyword .from_ then
    return .head ⟨size, some (← integer)⟩
  return .head ⟨size, none⟩

end Parser

end PipedQuery
