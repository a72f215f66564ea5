import PipedQuery.Command
import PipedQuery.Expr.Text

/-!
# Commands as text

The canonical text of a query: keywords in lower case, options in a fixed order, and the stages
joined by pipes.
-/

namespace PipedQuery

/-- Texts separated by commas. -/
def commaList (texts : List String) : String := ", ".intercalate texts

/-- Field names separated by commas. -/
def fieldList (names : List String) : String := commaList (names.map writeName)

/-- What `write` makes of a value, and nothing of an absent one. -/
def writeOptional {α : Type} (write : α → String) : Option α → String
  | none => ""
  | some a => write a

/-- The alias behind `as`, if there is one. -/
def aliasText : Option String → String := writeOptional fun name => " as " ++ writeName name

/-- The renaming as it is written. -/
def Renaming.text (r : Renaming) : String := writeName r.old ++ " as " ++ writeName r.new

/-- The assignment as it is written. -/
def Assignment.text (a : Assignment) : String := writeName a.field ++ " = " ++ a.value.text

/-- The aggregation as it is written. -/
def Aggregation.text (a : Aggregation) : String := a.function.text ++ aliasText a.column

/-- The bucket as it is written. -/
def Bucket.text (b : Bucket) : String :=
  "span(" ++ writeName b.field ++ ", " ++ b.value.text ++
    writeOptional Keyword.lowercase b.unit ++ ")" ++ aliasText b.column

/-- The sort key as it is written.  Ascending order needs no sign. -/
def SortKey.text (k : SortKey) : String :=
  (if k.direction = .descending then "-" else "") ++
    match k.cast with
    | some cast => cast.text ++ "(" ++ writeName k.field ++ ")"
    | none => writeName k.field

/-- The parameter as it is written. -/
def Parameter.text (p : Parameter) : String := p.name ++ "=" ++ p.value.text

namespace Search

/-- The stage as it is written. -/
def text (s : Search) : String :=
  "search source=" ++ commaList (s.sources.map DataSource.text) ++
    writeOptional (fun filter => " " ++ filter.text) s.filter

end Search

namespace Stats

/-- What is grouped by, if anything is. -/
def groupText (s : Stats) : String :=
  match s.span, s.groupBy with
  | none, [] => ""
  | none, names => " by " ++ fieldList names
  | some span, [] => " by " ++ span.text
  | some span, names => " by " ++ span.text ++ ", " ++ fieldList names

/-- The stage as it is written. -/
def text (s : Stats) : String :=
  "stats" ++
    writeOptional (fun n => " partitions=" ++ toString n) s.partitions ++
    writeOptional (fun b => " allnum=" ++ boolText b) s.allNum ++
    writeOptional (fun d => " delim=" ++ writeString d) s.delimiter ++
    (if s.aggregations.isEmpty then "" else " " ++ commaList (s.aggregations.map Aggregation.text)) ++
    s.groupText ++
    writeOptional (fun b => " dedup_splitvalues=" ++ boolText b) s.dedupSplitValues

end Stats

namespace Dedup

/-- The stage as it is written. -/
def text (d : Dedup) : String :=
  "dedup " ++ writeOptional (fun n => toString n ++ " ") d.count ++ fieldList d.fields ++
    writeOptional (fun n => " partitions=" ++ toString n) d.partitions ++
    writeOptional (fun b => " keepempty=" ++ boolText b) d.keepEmpty ++
    writeOptional (fun b => " consecutive=" ++ boolText b) d.consecutive ++
    writeOptional (fun b => " dedup_splitvalues=" ++ boolText b) d.splitValues

end Dedup

namespace Head

/-- The stage as it is written. -/
def text (h : Head) : String :=
  "head" ++ writeOptional (fun n => " " ++ toString n) h.size ++
    writeOptional (fun n => " from " ++ toString n) h.offset

end Head

namespace Rank

/-- The stage as it is written behind its name. -/
def text (r : Rank) : String :=
  writeOptional (fun n => " " ++ toString n) r.count ++ " " ++ fieldList r.fields ++
    if r.groupBy.isEmpty then "" else " by " ++ fieldList r.groupBy

end Rank

namespace Extraction

/-- The stage as it is written.  `patterns` takes its options before the field, the other methods
    take the pattern behind it. -/
def text (e : Extraction) : String :=
  match e.method with
  | .patterns =>
    "patterns" ++ writeOptional (fun f => " new_field=" ++ writeString f) e.newFields.head? ++
      writeOptional (fun p => " pattern=" ++ writeString p) e.pattern ++ " " ++ writeName e.source
  | method =>
    method.command ++ " " ++ writeName e.source ++
      writeOptional (fun p => " " ++ writeString p) e.pattern

end Extraction

namespace Command

/-- The canonical text of the stage. -/
def text : Command → String
  | .search body => body.text
  | .describe source => "describe " ++ source.text
  | .showDatasources => "show datasources"
  | .filter condition => "where " ++ condition.text
  | .fields exclude names => (if exclude then "fields - " else "fields ") ++ fieldList names
  | .rename renamings => "rename " ++ commaList (renamings.map Renaming.text)
  | .stats body => body.text
  | .dedup body => body.text
  | .sort keys => "sort " ++ commaList (keys.map SortKey.text)
  | .eval assignments => "eval " ++ commaList (assignments.map Assignment.text)
  | .head body => body.text
  | .top body => "top" ++ body.text
  | .rare body => "rare" ++ body.text
  | .extract body => body.text
  | .learn algorithm params =>
    algorithm.name ++ String.join (params.map fun p => " " ++ p.text)

end Command

/-- The canonical text of a query. -/
def Query.text (q : Query) : String := " | ".intercalate (q.commands.map Command.text)

end PipedQuery
