import PipedQuery.Keyword

/-!
# Keyword roles

The names and descriptions under which the documentation presents each role, and the keywords a
role holds.
-/

namespace PipedQuery

namespace KeywordRole

/-- Every role, in the order of the documentation overview. -/
def all : List KeywordRole :=
  [.command, .clause, .operator, .literal, .commandOption,
   .mlOption, .intervalUnit, .spanUnit, .dataType, .aggregateFunction,
   .scalarFunction, .relevanceFunction, .relevanceOption]

/-- The short name, which is also the role's documentation category. -/
def name : KeywordRole → String
  | .command => "commands"
  | .clause => "clauses"
  | .operator => "operators"
  | .literal => "literals"
  | .commandOption => "options"
  | .mlOption => "ml-options"
  | .intervalUnit => "interval-units"
  | .spanUnit => "span-units"
  | .dataType => "types"
  | .aggregateFunction => "aggregations"
  | .scalarFunction => "functions"
  | .relevanceFunction => "relevance"
  | .relevanceOption => "relevance-options"

/-- One line on what the words of the role are for. -/
def description : KeywordRole → String
  | .command => "Pipeline commands, one per `|` stage"
  | .clause => "Words that introduce a clause inside a command"
  | .operator => "Boolean and membership operators"
  | .literal => "Boolean literals"
  | .commandOption => "name=value options of dedup, stats and patterns"
  | .mlOption => "name=value options of kmeans and ad"
  | .intervalUnit => "Compound units accepted after `interval <expr>`"
  | .spanUnit => "Short units accepted by `span(field, value unit)`"
  | .dataType => "Target types of `cast(expr as type)`"
  | .aggregateFunction => "Aggregations usable in stats"
  | .scalarFunction => "Math, date, string and conditional functions"
  | .relevanceFunction => "Full-text relevance functions"
  | .relevanceOption => "Named options of the relevance functions"

/-- The role's tag in encoded answers. -/
def tag : KeywordRole → String
  | .command => "command"
  | .clause => "clause"
  | .operator => "operator"
  | .literal => "literal"
  | .commandOption => "command_option"
  | .mlOption => "ml_option"
  | .intervalUnit => "interval_unit"
  | .spanUnit => "span_unit"
  | .dataType => "data_type"
  | .aggregateFunction => "aggregate_function"
  | .scalarFunction => "scalar_function"
  | .relevanceFunction => "relevance_function"
  | .relevanceOption => "relevance_option"

/-- The keywords of the role, in table order. -/
def members (r : KeywordRole) : List Keyword := Keyword.all.filter fun k => k.role = r

/-- The role with the given name, in any ASCII letter case. -/
def ofName? (name : String) : Option KeywordRole :=
  all.find? fun r => r.name.map Char.toLower == name.map Char.toLower

end KeywordRole

end PipedQuery
