import PipedQuery.Proofs.Command.Readable
import PipedQuery.Proofs.Grammar.Kept

/-!
# Commands built of expressions

What holds of every command that is parsed, in terms of a property of all expressions that are
parsed.  As with single calls, it depends on the causes of issues that are put up with.  Parts without
expressions are well-formed in any case.
-/

namespace PipedQuery

/-- Whether the aggregation is a call of an aggregate function, on expressions with a property. -/
def Aggregation.Kept (A : Cause → Prop) (P : Expr → Prop) (a : Aggregation) : Prop :=
  ∃ k args options, a.function = .call k.lowercase .aggregate args options ∧
    KeptCall A P k .aggregate args options

/-- Whether the bucket has a number as its length and, if any, a unit of buckets. -/
structure Bucket.WellFormed (b : Bucket) : Prop where
  number : b.value.isNumeric = true
  unsigned : b.value.IsUnsigned
  unit : ∀ k ∈ b.unit, k.isSpanUnit = true

/-- Whether `stats` has a count of partitions in range, some aggregations with a property, and a
    well-formed bucket if any. -/
structure Stats.WellFormedWith (Q : Aggregation → Prop) (s : Stats) : Prop where
  partitions : ∀ n ∈ s.partitions, IsCount n
  nonempty : s.aggregations ≠ []
  aggregations : ∀ a ∈ s.aggregations, Q a
  span : ∀ b ∈ s.span, b.WellFormed

/-- Whether `head` has numbers in range. -/
structure Head.WellFormed (h : Head) : Prop where
  size : ∀ n ∈ h.size, IsCount n
  offset : ∀ n ∈ h.offset, IsCount n

/-- Whether `dedup` has counts in range and some fields. -/
structure Dedup.WellFormed (d : Dedup) : Prop where
  count : ∀ n ∈ d.count, IsCount n
  fields : d.fields ≠ []
  partitions : ∀ n ∈ d.partitions, IsCount n

/-- Whether the ranking has a count in range and some fields. -/
structure Rank.WellFormed (r : Rank) : Prop where
  count : ∀ n ∈ r.count, IsCount n
  fields : r.fields ≠ []

/-- Whether the source has a cluster only if it is written as a name with that cluster. -/
def DataSource.IsNamed (s : DataSource) : Prop :=
  s.cluster = none ∨ ∃ l : Lexeme, (l.kind = .clusterName ∨ l.kind = .datedName) ∧
    Scan.IsClusterWord l ∧ s = Parser.sourceOfWord l.text

/-- Whether the command has all the parts that it needs, its expressions with a property. -/
def Command.Kept (A : Cause → Prop) (P : Expr → Prop) : Command → Prop
  | .search body =>
    (body.sources ≠ [] ∧ ∀ s ∈ body.sources, s.IsNamed) ∧ ∀ e ∈ body.filter, P e
  | .describe source => source.IsNamed
  | .showDatasources => True
  | .filter condition => P condition
  | .fields _ names => names ≠ []
  | .rename renamings => renamings ≠ []
  | .stats body => body.WellFormedWith (·.Kept A P)
  | .dedup body => body.WellFormed
  | .sort keys => keys ≠ []
  | .eval assignments => assignments ≠ [] ∧ ∀ a ∈ assignments, P a.value
  | .head body => body.WellFormed
  | .top body | .rare body => body.WellFormed
  | .extract body => body.HasOwnFields
  | .learn algorithm params => ∀ p ∈ params, p.IsReadable algorithm

end PipedQuery
