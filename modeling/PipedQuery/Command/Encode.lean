import PipedQuery.Command
import PipedQuery.Expr.Encode

/-!
# Encoded commands

Commands and queries as JSON, and their comparison up to the scale of decimals.
-/

namespace PipedQuery

/-- A field reference. -/
def fieldJson (name : String) : Json := .obj [("name", .str name)]

/-- A list of field references. -/
def fieldsJson (names : List String) : Json := .arr (names.map fieldJson)

/-- The encoded source. -/
def DataSource.toJson (s : DataSource) : Json :=
  .obj [("cluster", .opt .str s.cluster), ("name", .str s.name)]

/-- The encoded bucket. -/
def Bucket.toJson (b : Bucket) : Json :=
  .obj [("field", fieldJson b.field), ("value", b.value.toJson),
    ("unit", .opt (fun k => .str k.spelling) b.unit), ("alias", .opt .str b.column)]

/-- The encoded aggregation. -/
def Aggregation.toJson (a : Aggregation) : Json :=
  .obj [("function", a.function.toJson), ("alias", .opt .str a.column)]

/-- The encoded sort key. -/
def SortKey.toJson (k : SortKey) : Json :=
  .obj [("field", fieldJson k.field), ("direction", .str k.direction.tag),
    ("cast", .opt (fun c => .str c.text) k.cast)]

/-- The encoded parameter. -/
def Parameter.toJson (p : Parameter) : Json :=
  .obj [("name", .str p.name), ("value", p.value.toJson)]

namespace Command

/-- An encoded command, with its tag first. -/
def tagged (tag : String) (fields : List (String × Json)) : Json :=
  .obj (("command", .str tag) :: fields)

/-- The encoded body of `top` and `rare`. -/
def rankFields (r : Rank) : List (String × Json) :=
  [("count", .opt .num r.count), ("fields", fieldsJson r.fields),
    ("group_by", fieldsJson r.groupBy)]

/-- The encoded command. -/
def toJson : Command → Json
  | .search body =>
    tagged "search"
      [("sources", .arr (body.sources.map DataSource.toJson)),
        ("filter", .opt Expr.toJson body.filter)]
  | .describe source => tagged "describe" [("source", source.toJson)]
  | .showDatasources => tagged "show_datasources" []
  | .filter condition => tagged "where" [("condition", condition.toJson)]
  | .fields exclude names =>
    tagged "fields" [("exclude", .bool exclude), ("fields", fieldsJson names)]
  | .rename renamings =>
    tagged "rename"
      [("renames",
        .arr (renamings.map fun r => .obj [("from", fieldJson r.old), ("to", fieldJson r.new)]))]
  | .stats body =>
    tagged "stats"
      [("partitions", .opt .num body.partitions), ("all_num", .opt .bool body.allNum),
        ("delim", .opt .str body.delimiter),
        ("aggregations", .arr (body.aggregations.map Aggregation.toJson)),
        ("span", .opt Bucket.toJson body.span), ("group_by", fieldsJson body.groupBy),
        ("dedup_split_values", .opt .bool body.dedupSplitValues)]
  | .dedup body =>
    tagged "dedup"
      [("count", .opt .num body.count), ("fields", fieldsJson body.fields),
        ("keep_empty", .opt .bool body.keepEmpty), ("consecutive", .opt .bool body.consecutive),
        ("split_values", .opt .bool body.splitValues),
        ("partitions", .opt .num body.partitions)]
  | .sort keys => tagged "sort" [("keys", .arr (keys.map SortKey.toJson))]
  | .eval assignments =>
    tagged "eval"
      [("assignments",
        .arr (assignments.map fun a =>
          .obj [("field", fieldJson a.field), ("value", a.value.toJson)]))]
  | .head body =>
    tagged "head" [("size", .opt .num body.size), ("offset", .opt .num body.offset)]
  | .top body => tagged "top" (rankFields body)
  | .rare body => tagged "rare" (rankFields body)
  | .extract body =>
    tagged "parse"
      [("method", .str body.method.tag), ("source_field", fieldJson body.source),
        ("pattern", .opt .str body.pattern), ("new_fields", .arr (body.newFields.map .str))]
  | .learn algorithm params =>
    tagged algorithm.name [("params", .arr (params.map Parameter.toJson))]

/-- Whether two optional expressions are equal, decimals being compared as numbers. -/
def sameFilter : Option Expr → Option Expr → Bool
  | none, none => true
  | some a, some b => a.same b
  | _, _ => false

/-- Whether two aggregations are equal in the same sense. -/
def sameAggregation (a b : Aggregation) : Bool :=
  a.function.same b.function && a.column = b.column

/-- Whether two buckets are equal in the same sense. -/
def sameBucket : Option Bucket → Option Bucket → Bool
  | none, none => true
  | some a, some b =>
    a.field = b.field && a.value.same b.value && a.unit = b.unit && a.column = b.column
  | _, _ => false

/-- Whether two commands are equal, decimals being compared as numbers. -/
def same : Command → Command → Bool
  | .search a, .search b => a.sources = b.sources && sameFilter a.filter b.filter
  | .describe a, .describe b => a = b
  | .showDatasources, .showDatasources => true
  | .filter a, .filter b => a.same b
  | .fields exclude names, .fields exclude' names' => exclude = exclude' && names = names'
  | .rename a, .rename b => a = b
  | .stats a, .stats b =>
    a.partitions = b.partitions && a.allNum = b.allNum && a.delimiter = b.delimiter &&
      sameLists sameAggregation a.aggregations b.aggregations && sameBucket a.span b.span &&
      a.groupBy = b.groupBy && a.dedupSplitValues = b.dedupSplitValues
  | .dedup a, .dedup b => a = b
  | .sort a, .sort b => a = b
  | .eval a, .eval b =>
    sameLists (fun x y => x.field = y.field && x.value.same y.value) a b
  | .head a, .head b => a = b
  | .top a, .top b => a = b
  | .rare a, .rare b => a = b
  | .extract a, .extract b => a = b
  | .learn algorithm params, .learn algorithm' params' =>
    algorithm = algorithm' &&
      sameLists (fun x y => x.name = y.name && x.value.same y.value) params params'
  | _, _ => false

end Command

namespace Query

/-- The encoded query. -/
def toJson (q : Query) : Json := .obj [("commands", .arr (q.commands.map Command.toJson))]

/-- Whether two queries are equal, decimals being compared as numbers. -/
def same (a b : Query) : Bool := sameLists Command.same a.commands b.commands

end Query

end PipedQuery
