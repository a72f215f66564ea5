import PipedQuery.Expr

/-!
# Commands

The stages of a pipeline.  Each command carries only the parts that its own grammar can give it.
-/

namespace PipedQuery

/-- A field and its new name. -/
structure Renaming where
  old : String
  new : String
deriving DecidableEq

/-- A field and the expression it is computed from. -/
structure Assignment where
  field : String
  value : Expr

/-- An aggregation and the name of its column. -/
structure Aggregation where
  function : Expr
  column : Option String

/-- A bucket `span(field, value unit)` to group by, and the name of its column. -/
structure Bucket where
  field : String
  value : Literal
  unit : Option Keyword
  column : Option String
deriving DecidableEq

/-- The body of `search`. -/
structure Search where
  sources : List DataSource
  filter : Option Expr

/-- The body of `stats`. -/
structure Stats where
  partitions : Option Int
  allNum : Option Bool
  delimiter : Option String
  aggregations : List Aggregation
  span : Option Bucket
  groupBy : List String
  dedupSplitValues : Option Bool

/-- The body of `dedup`. -/
structure Dedup where
  count : Option Int
  fields : List String
  keepEmpty : Option Bool
  consecutive : Option Bool
  splitValues : Option Bool
  partitions : Option Int
deriving DecidableEq

/-- The direction of a sort key. -/
inductive Direction where
  | ascending
  | descending
deriving DecidableEq

/-- The direction's tag in encoded answers. -/
def Direction.tag : Direction → String
  | .ascending => "ascending"
  | .descending => "descending"

/-- The comparison hints of a sort key. -/
inductive SortCast where
  | auto
  | str
  | ip
  | num
deriving DecidableEq

namespace SortCast

/-- The word for the hint, which is also its tag in encoded answers. -/
def text : SortCast → String
  | .auto => "auto"
  | .str => "str"
  | .ip => "ip"
  | .num => "num"

/-- The hint that a keyword stands for. -/
def ofKeyword? : Keyword → Option SortCast
  | .auto => some .auto
  | .str => some .str
  | .ip => some .ip
  | .num => some .num
  | _ => none

end SortCast

/-- A field to sort by. -/
structure SortKey where
  field : String
  direction : Direction
  cast : Option SortCast
deriving DecidableEq

/-- The body of `head`. -/
structure Head where
  size : Option Int
  offset : Option Int
deriving DecidableEq

/-- The body of `top` and `rare`. -/
structure Rank where
  count : Option Int
  fields : List String
  groupBy : List String
deriving DecidableEq

/-- The ways to extract fields from a text. -/
inductive ExtractionMethod where
  | regex
  | grok
  | patterns
deriving DecidableEq

namespace ExtractionMethod

/-- Every method. -/
def all : List ExtractionMethod := [.regex, .grok, .patterns]

/-- The command that extracts by the method. -/
def command : ExtractionMethod → String
  | .regex => "parse"
  | .grok => "grok"
  | .patterns => "patterns"

/-- The method's tag in encoded answers. -/
def tag : ExtractionMethod → String
  | .regex => "regex"
  | .grok => "grok"
  | .patterns => "patterns"

end ExtractionMethod

/-- The body of `parse`, `grok` and `patterns`. -/
structure Extraction where
  method : ExtractionMethod
  source : String
  pattern : Option String
  newFields : List String
deriving DecidableEq

/-- A parameter `name=value` of a learning algorithm. -/
structure Parameter where
  name : String
  value : Literal
deriving DecidableEq

/-- The learning algorithms with a command of their own. -/
inductive Algorithm where
  | kmeans
  | ad
  | ml
deriving DecidableEq

/-- The algorithm's command. -/
def Algorithm.name : Algorithm → String
  | .kmeans => "kmeans"
  | .ad => "ad"
  | .ml => "ml"

/-- A stage of a pipeline. -/
inductive Command where
  /-- Reads from sources, keeping what passes a filter. -/
  | search (body : Search)
  /-- Lists the fields of a source. -/
  | describe (source : DataSource)
  /-- Lists the sources. -/
  | showDatasources
  /-- Keeps the rows that meet a condition. -/
  | filter (condition : Expr)
  /-- Keeps the listed fields, or drops them. -/
  | fields (exclude : Bool) (names : List String)
  /-- Renames fields. -/
  | rename (renamings : List Renaming)
  /-- Aggregates, by groups if any are given. -/
  | stats (body : Stats)
  /-- Drops duplicate rows. -/
  | dedup (body : Dedup)
  /-- Orders the rows. -/
  | sort (keys : List SortKey)
  /-- Computes fields. -/
  | eval (assignments : List Assignment)
  /-- Keeps the first rows. -/
  | head (body : Head)
  /-- Keeps the most frequent values. -/
  | top (body : Rank)
  /-- Keeps the least frequent values. -/
  | rare (body : Rank)
  /-- Extracts fields from a text field. -/
  | extract (body : Extraction)
  /-- Runs a learning algorithm. -/
  | learn (algorithm : Algorithm) (params : List Parameter)

namespace Command

/-- The command's name, as written at the start of the stage. -/
def name : Command → String
  | .search _ => "search"
  | .describe _ => "describe"
  | .showDatasources => "show datasources"
  | .filter _ => "where"
  | .fields _ _ => "fields"
  | .rename _ => "rename"
  | .stats _ => "stats"
  | .dedup _ => "dedup"
  | .sort _ => "sort"
  | .eval _ => "eval"
  | .head _ => "head"
  | .top _ => "top"
  | .rare _ => "rare"
  | .extract body => body.method.command
  | .learn algorithm _ => algorithm.name

/-- Whether the command reads data rather than transforming it. -/
def isSource : Command → Bool
  | .search _ | .describe _ | .showDatasources => true
  | _ => false

/-- The value of a parameter of a learning algorithm, in any ASCII letter case of the name.  The
    first of several parameters with the name counts. -/
def parameter? (name : String) : Command → Option Literal
  | .learn _ params =>
    (params.find? fun p => p.name.map Char.toLower == name.map Char.toLower).map (·.value)
  | _ => none

end Command

/-- A pipeline: commands in the order they run. -/
structure Query where
  commands : List Command

namespace Query

/-- The names of the commands, in order. -/
def commandNames (q : Query) : List String := q.commands.map Command.name

end Query

end PipedQuery
