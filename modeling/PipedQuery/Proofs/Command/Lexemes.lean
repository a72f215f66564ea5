import PipedQuery.Command.Text
import PipedQuery.Proofs.Expr.Lexemes
import PipedQuery.Proofs.Scan.Sources

/-!
# The lexemes of canonical commands

What the canonical text of a command scans as, built like the text itself.
-/

namespace PipedQuery

/-- What `lex` makes of a value, and nothing of an absent one. -/
def optionalLexemes {α : Type} (lex : α → List Lexeme) : Option α → List Lexeme
  | none => []
  | some a => lex a

@[simp] theorem optionalLexemes_none {α : Type} (lex : α → List Lexeme) :
    optionalLexemes lex none = [] := rfl

@[simp] theorem optionalLexemes_some {α : Type} (lex : α → List Lexeme) (a : α) :
    optionalLexemes lex (some a) = lex a := rfl

/-- Field names with commas between them. -/
def fieldLexemes (names : List String) : List Lexeme := commaLexemes (names.map nameLexemes)

/-- The alias behind `as`, if there is one. -/
def aliasLexemes : Option String → List Lexeme :=
  optionalLexemes fun name => Keyword.as_.lexeme :: nameLexemes name

/-- The lexemes of an option that a keyword names. -/
def optionLexemes (k : Keyword) (value : Literal) : List Lexeme :=
  k.lexeme :: .mark .equal :: value.lexemes

/-- The lexemes of the fields to group by, if there are any. -/
def byLexemes (names : List String) : List Lexeme :=
  if names.isEmpty then [] else Keyword.by_.lexeme :: fieldLexemes names

/-- The lexemes of a renaming. -/
def Renaming.lexemes (r : Renaming) : List Lexeme :=
  nameLexemes r.old ++ Keyword.as_.lexeme :: nameLexemes r.new

/-- The lexemes of an assignment. -/
def Assignment.lexemes (a : Assignment) : List Lexeme :=
  nameLexemes a.field ++ .mark .equal :: a.value.lexemes

/-- The lexemes of an aggregation. -/
def Aggregation.lexemes (a : Aggregation) : List Lexeme := a.function.lexemes ++ aliasLexemes a.column

/-- The lexemes of a bucket. -/
def Bucket.lexemes (b : Bucket) : List Lexeme :=
  Keyword.span.lexeme :: .mark .lParen :: (nameLexemes b.field ++ .mark .comma ::
    (b.value.lexemes ++ (optionalLexemes (fun k => [k.lexeme]) b.unit ++
      .mark .rParen :: aliasLexemes b.column)))

/-- The keyword for the hint. -/
def SortCast.keyword : SortCast → Keyword
  | .auto => .auto
  | .str => .str
  | .ip => .ip
  | .num => .num

/-- The lexemes of a sort key. -/
def SortKey.lexemes (k : SortKey) : List Lexeme :=
  (if k.direction = .descending then [.mark .minus] else []) ++
    match k.cast with
    | some cast => cast.keyword.lexeme :: .mark .lParen :: (nameLexemes k.field ++ [.mark .rParen])
    | none => nameLexemes k.field

/-- The lexemes of a parameter. -/
def Parameter.lexemes (p : Parameter) : List Lexeme :=
  .word p.name :: .mark .equal :: p.value.lexemes

/-- The lexemes of a search. -/
def Search.lexemes (s : Search) : List Lexeme :=
  Keyword.search.lexeme :: Keyword.source.lexeme :: .mark .equal ::
    (commaLexemes (s.sources.map DataSource.lexemes) ++ optionalLexemes Expr.lexemes s.filter)

/-- The lexemes of what is grouped by, if anything is. -/
def Stats.groupLexemes (s : Stats) : List Lexeme :=
  match s.span, s.groupBy with
  | none, names => byLexemes names
  | some span, [] => Keyword.by_.lexeme :: span.lexemes
  | some span, names => Keyword.by_.lexeme :: (span.lexemes ++ .mark .comma :: fieldLexemes names)

/-- The lexemes of `stats`. -/
def Stats.lexemes (s : Stats) : List Lexeme :=
  Keyword.stats.lexeme ::
    (optionalLexemes (fun n => optionLexemes .partitions (.int n)) s.partitions ++
      (optionalLexemes (fun b => optionLexemes .allnum (.bool b)) s.allNum ++
        (optionalLexemes (fun d => optionLexemes .delim (.str d)) s.delimiter ++
          (commaLexemes (s.aggregations.map Aggregation.lexemes) ++
            (s.groupLexemes ++
              optionalLexemes (fun b => optionLexemes .dedupSplitvalues (.bool b))
                s.dedupSplitValues)))))

/-- The lexemes of `dedup`. -/
def Dedup.lexemes (d : Dedup) : List Lexeme :=
  Keyword.dedup.lexeme ::
    (optionalLexemes (fun n => (Literal.int n).lexemes) d.count ++
      (fieldLexemes d.fields ++
        (optionalLexemes (fun n => optionLexemes .partitions (.int n)) d.partitions ++
          (optionalLexemes (fun b => optionLexemes .keepempty (.bool b)) d.keepEmpty ++
            (optionalLexemes (fun b => optionLexemes .consecutive (.bool b)) d.consecutive ++
              optionalLexemes (fun b => optionLexemes .dedupSplitvalues (.bool b)) d.splitValues)))))

/-- The lexemes of `head`. -/
def Head.lexemes (h : Head) : List Lexeme :=
  Keyword.head.lexeme :: (optionalLexemes (fun n => (Literal.int n).lexemes) h.size ++
    optionalLexemes (fun n => Keyword.from_.lexeme :: (Literal.int n).lexemes) h.offset)

/-- The lexemes of a ranking behind its name. -/
def Rank.lexemes (r : Rank) : List Lexeme :=
  optionalLexemes (fun n => (Literal.int n).lexemes) r.count ++
    (fieldLexemes r.fields ++ byLexemes r.groupBy)

/-- The keyword of the command that extracts by the method. -/
def ExtractionMethod.keyword : ExtractionMethod → Keyword
  | .regex => .parse
  | .grok => .grok
  | .patterns => .patterns

/-- The lexemes of an extraction. -/
def Extraction.lexemes (e : Extraction) : List Lexeme :=
  e.method.keyword.lexeme ::
    match e.method with
    | .patterns =>
      optionalLexemes (fun f => optionLexemes .newField (.str f)) e.newFields.head? ++
        (optionalLexemes (fun p => optionLexemes .pattern (.str p)) e.pattern ++ nameLexemes e.source)
    | _ => nameLexemes e.source ++ optionalLexemes (fun p => [.string p]) e.pattern

/-- The keyword of the algorithm's command. -/
def Algorithm.keyword : Algorithm → Keyword
  | .kmeans => .kmeans
  | .ad => .ad
  | .ml => .ml

namespace Command

/-- The lexemes of the canonical text. -/
def lexemes : Command → List Lexeme
  | .search body => body.lexemes
  | .describe source => Keyword.describe.lexeme :: source.lexemes
  | .showDatasources => [Keyword.show_.lexeme, Keyword.datasources.lexeme]
  | .filter condition => Keyword.where_.lexeme :: condition.lexemes
  | .fields exclude names =>
    Keyword.fields.lexeme :: ((if exclude then [.mark .minus] else []) ++ fieldLexemes names)
  | .rename renamings => Keyword.rename.lexeme :: commaLexemes (renamings.map Renaming.lexemes)
  | .stats body => body.lexemes
  | .dedup body => body.lexemes
  | .sort keys => Keyword.sort.lexeme :: commaLexemes (keys.map SortKey.lexemes)
  | .eval assignments => Keyword.eval.lexeme :: commaLexemes (assignments.map Assignment.lexemes)
  | .head body => body.lexemes
  | .top body => Keyword.top.lexeme :: body.lexemes
  | .rare body => Keyword.rare.lexeme :: body.lexemes
  | .extract body => body.lexemes
  | .learn algorithm params => algorithm.keyword.lexeme :: params.flatMap Parameter.lexemes

end Command

end PipedQuery
