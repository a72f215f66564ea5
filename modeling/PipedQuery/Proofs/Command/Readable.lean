import PipedQuery.Grammar.Extract
import PipedQuery.Proofs.Command.Lexemes
import PipedQuery.Proofs.Expr.Readable

/-!
# Commands that can be read back

`Command.IsReadable` says which commands the canonical text brings back when it is parsed.
-/

namespace PipedQuery

/-- Whether the expression can be read back as a whole part of a command. -/
def Expr.IsWhole (e : Expr) : Prop := Readable .other e ∧ e.levels ≤ maxNesting

/-- Whether all of the names can be read back, and there is one. -/
def AreFields (names : List String) : Prop := names ≠ [] ∧ ∀ name ∈ names, IsScannable name

/-- Whether the aggregation can be read back.  Its call goes one level deeper than other
    expressions. -/
structure Aggregation.IsReadable (a : Aggregation) : Prop where
  call : ∃ name args, a.function = .call name .aggregate args []
  readable : Expr.Readable .other a.function
  low : a.function.levels ≤ maxNesting + 1
  column : ∀ name ∈ a.column, IsScannable name

/-- Whether the bucket can be read back. -/
structure Bucket.IsReadable (b : Bucket) : Prop where
  field : IsScannable b.field
  number : b.value.isNumeric = true
  unsigned : b.value.IsUnsigned
  unit : ∀ k ∈ b.unit, k.isSpanUnit = true
  column : ∀ name ∈ b.column, IsScannable name

/-- Whether `stats` can be read back. -/
structure Stats.IsReadable (s : Stats) : Prop where
  partitions : ∀ n ∈ s.partitions, IsCount n
  nonempty : s.aggregations ≠ []
  aggregations : ∀ a ∈ s.aggregations, a.IsReadable
  span : ∀ b ∈ s.span, b.IsReadable
  groupBy : ∀ name ∈ s.groupBy, IsScannable name

/-- Whether `dedup` can be read back. -/
structure Dedup.IsReadable (d : Dedup) : Prop where
  count : ∀ n ∈ d.count, IsCount n
  fields : AreFields d.fields
  partitions : ∀ n ∈ d.partitions, IsCount n

/-- Whether the ranking can be read back. -/
structure Rank.IsReadable (r : Rank) : Prop where
  count : ∀ n ∈ r.count, IsCount n
  fields : AreFields r.fields
  groupBy : ∀ name ∈ r.groupBy, IsScannable name

/-- The fields that a pattern of `parse` makes. -/
def Pattern.parsedFields (pattern : String) : List String :=
  match groupNames? pattern with
  | .ok names => names
  | .error _ => writtenGroupNames pattern

/-- Whether the new fields are those that the method takes from its pattern. -/
def Extraction.HasOwnFields (e : Extraction) : Prop :=
  match e.method with
  | .regex => ∃ pattern, e.pattern = some pattern ∧ e.newFields = Pattern.parsedFields pattern
  | .grok => ∃ pattern, e.pattern = some pattern ∧ e.newFields = Pattern.grokFields pattern
  | .patterns => ∃ field, e.newFields = [field]

/-- Whether the extraction can be read back. -/
structure Extraction.IsReadable (e : Extraction) : Prop where
  source : IsScannable e.source
  fields : e.HasOwnFields

/-- Whether the parameter is one of the algorithm and can be written. -/
structure Parameter.IsReadable (algorithm : Algorithm) (p : Parameter) : Prop where
  word : Scan.IsWord p.name.toList
  lowercase : p.name.map Char.toLower = p.name
  value : p.value.IsOptionValue
  known : ∃ type, Parser.parameterType? algorithm (Scan.nameKind p.name.toList) = some type ∧
    ∀ t ∈ type, t.accepts p.value = true

/-- Whether the command can be read back. -/
def Command.IsReadable : Command → Prop
  | .search body =>
    body.sources ≠ [] ∧ (∀ s ∈ body.sources, s.IsReadable) ∧ ∀ e ∈ body.filter, e.IsWhole
  | .describe source => source.IsReadable
  | .showDatasources => True
  | .filter condition => condition.IsWhole
  | .fields _ names => AreFields names
  | .rename renamings =>
    renamings ≠ [] ∧ ∀ r ∈ renamings, IsScannable r.old ∧ IsScannable r.new
  | .stats body => body.IsReadable
  | .dedup body => body.IsReadable
  | .sort keys => keys ≠ [] ∧ ∀ k ∈ keys, IsScannable k.field
  | .eval assignments =>
    assignments ≠ [] ∧ ∀ a ∈ assignments, IsScannable a.field ∧ a.value.IsWhole
  | .head body => (∀ n ∈ body.size, IsCount n) ∧ ∀ n ∈ body.offset, IsCount n
  | .top body | .rare body => body.IsReadable
  | .extract body => body.IsReadable
  | .learn algorithm params => ∀ p ∈ params, p.IsReadable algorithm

end PipedQuery
