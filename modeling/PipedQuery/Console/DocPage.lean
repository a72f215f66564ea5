import PipedQuery.Keyword.Arity
import PipedQuery.Keyword.Role
import PipedQuery.Token.Listing

/-!
# Documentation pages

The guides to the language, and the pages that list the keywords of each role.  The listings come
from the keyword table, so they hold exactly the words that the scanner knows.
-/

namespace PipedQuery

/-- The text of a page, given line by line. -/
def pageText (lines : List String) : String := String.join (lines.map (· ++ "\n"))

/-- The documentation pages. -/
inductive DocPage where
  | tokens
  | pipeline
  | expressions
  | keywords (role : KeywordRole)
deriving DecidableEq

namespace DocPage

/-- The page that a category name stands for.  Letter case does not matter, nor whether words are
    joined by hyphens or underscores. -/
def ofName? (name : String) : Option DocPage :=
  let name := name.map fun c => if c = '_' then '-' else c.toLower
  if name = "syntax" || name = "lexical" then some .tokens
  else if name = "pipeline" || name = "pipes" || name = "query" then some .pipeline
  else if name = "expressions" || name = "expression" || name = "expr" then some .expressions
  else (KeywordRole.ofName? name).map .keywords

/-- The head of the overview. -/
def overviewHead : String :=
  pageText [
    "PPL DOCUMENTATION",
    "",
    "PPL is a piped processing language. A query is a pipeline of commands",
    "separated by `|`; each command consumes the rows produced by the previous",
    "one.",
    "",
    "  source=logs | where status >= 500 | stats count() by host",
    "",
    "GUIDES",
    "",
    "  syntax            Tokens, quoting, identifiers and index patterns",
    "  pipeline          Every command and its clauses",
    "  expressions       Operators, precedence, literals and function calls"]

/-- The guide to tokens and names. -/
def tokensGuide : String :=
  pageText [
    "SYNTAX - Tokens and Names",
    "",
    "KEYWORDS",
    "  Reserved words are case-insensitive: stats, STATS and StAtS are the same",
    "  command. Outside the command position most keywords also work as field",
    "  names, so `where count > 5` compares the field `count`.",
    "",
    "IDENTIFIERS",
    "  Start with a letter, `_` or `@` and continue with letters, digits, `_`,",
    "  `*` or `-`. Index patterns are therefore single names:",
    "",
    "    logs-*",
    "    @timestamp",
    "    *access",
    "",
    "  Dotted paths name nested fields:  request.headers.host",
    "",
    "  Cluster-qualified and date-suffixed names are also single tokens:",
    "",
    "    remote:logs",
    "    logs.2024.01.31",
    "",
    "QUOTING",
    "  \"text\"      String literal. \\\" and \\\\ are escapes, \"\" is one quote.",
    "  'text'      String literal. \\' and \\\\ are escapes, '' is one quote.",
    "  `name`      Quoted identifier. \\x is x, `` is one backtick.",
    "",
    "  Other backslash pairs are kept as written, so regex classes survive:",
    "",
    "    parse message '(?<code>\\d+)'",
    "",
    "NUMBERS",
    "  Integers (200) and decimals (0.5). Signs are operators."]

/-- The guide to the commands. -/
def pipelineGuide : String :=
  pageText [
    "PIPELINE - Commands",
    "",
    "SOURCES",
    "  search source=logs [filter]      Read an index; `search` may be omitted",
    "  search source=a, b status=500    Several sources, then a filter",
    "  describe logs                    Fields of an index",
    "  show datasources                 Configured data sources",
    "",
    "FILTERING AND SHAPING",
    "  where <condition>",
    "  fields [+|-] a, b                `-` removes the listed fields",
    "  rename old as new, ...",
    "  eval name = <expr>, ...",
    "  sort [+|-][auto|str|ip|num(]field[)] [desc], ...",
    "  head [N] [from offset]",
    "",
    "AGGREGATION",
    "  stats [partitions=N] [allnum=bool] [delim='x']",
    "        agg [as alias], ... [by span(field, 1h) | field, ...]",
    "        [dedup_splitvalues=bool]",
    "  dedup [N] field, ... [keepempty=bool] [consecutive=bool]",
    "  top [N] field, ... [by field, ...]",
    "  rare [N] field, ... [by field, ...]",
    "",
    "  `count` without parentheses and `percentile<95>(latency)` are accepted.",
    "",
    "EXTRACTION",
    "  parse field '(?<name>regex)'     Named groups become new fields",
    "  grok field '%\x7bIP:client\x7d'        Named captures become new fields",
    "  patterns [new_field='f'] [pattern='[0-9]'] field",
    "",
    "MACHINE LEARNING",
    "  kmeans centroids=3 iterations=10 distance_type='EUCLIDEAN'",
    "  ad shingle_size=8 time_field='@timestamp'",
    "  ml action='train' algorithm='rcf'"]

/-- The guide to expressions. -/
def expressionsGuide : String :=
  pageText [
    "EXPRESSIONS - Operators and Calls",
    "",
    "PRECEDENCE (loosest first)",
    "  xor",
    "  or",
    "  and           Also implied between adjacent conditions:",
    "                  where a = 1 b = 2    means    where a = 1 and b = 2",
    "  not",
    "  =  !=  <  <=  >  >=  like  regexp  in (...)",
    "                Comparisons do not chain: a < b < c is an error.",
    "  +  -",
    "  *  /  %",
    "  unary - +",
    "",
    "LITERALS",
    "  42   3.14   'text'   true   false",
    "  date '2024-01-31'   time '12:00:00'   timestamp '2024-01-31 12:00:00'",
    "  interval 1 day",
    "",
    "SPECIAL FORMS",
    "  case(status >= 500, 'error', status >= 400, 'warn' else 'ok')",
    "  cast(latency as double)",
    "  extract(day from @timestamp)",
    "  position('x' in name)",
    "",
    "FUNCTION CALLS",
    "  Only known functions may be called; `ppl doc functions` lists them with",
    "  the number of arguments each accepts."]

/-- What the page on the relevance functions adds to their list. -/
def relevanceNote : String :=
  pageText [
    "",
    "Relevance functions take the field (or a weighted field list) and the",
    "query text, followed by name=value options:",
    "",
    "  match(message, 'timeout', operator='AND')",
    "  multi_match(['title' ^ 2, 'body'], 'disk full', fuzziness='AUTO')",
    "",
    "Run 'ppl doc relevance-options' for the option names."]

/-- The line on a keyword in the list of its role. -/
def keywordEntry (k : Keyword) : String :=
  match k.arity? with
  | some arity => "  " ++ padRight 28 k.lowercase ++ arity.describe ++ "\n"
  | none => "  " ++ k.lowercase ++ "\n"

/-- The keywords of a role in alphabetical order. -/
def sortedMembers (role : KeywordRole) : List Keyword :=
  role.members.mergeSort fun k l => decide (k.spelling ≤ l.spelling)

/-- The page on a role: its description and its keywords. -/
def keywordPage (role : KeywordRole) : String :=
  role.name.map Char.toUpper ++ " - " ++ role.description ++ "\n\n" ++
    String.join ((sortedMembers role).map keywordEntry) ++
    if role = .relevanceFunction then relevanceNote else ""

/-- The text of a page. -/
def text : DocPage → String
  | .tokens => tokensGuide
  | .pipeline => pipelineGuide
  | .expressions => expressionsGuide
  | .keywords role => keywordPage role

/-- The line on a role in the overview, with the number of its keywords. -/
def roleEntry (role : KeywordRole) : String :=
  "  " ++ padRight 18 role.name ++ role.description ++ " (" ++ toString role.members.length ++ ")\n"

/-- The overview of all pages. -/
def overview : String :=
  overviewHead ++ "\nKEYWORD CATEGORIES\n\n" ++ String.join (KeywordRole.all.map roleEntry) ++
    "\nRun 'ppl doc <category>' for detailed documentation.\n"

end DocPage

end PipedQuery
