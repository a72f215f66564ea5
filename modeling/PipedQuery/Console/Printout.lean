import PipedQuery.Console.DocPage
import PipedQuery.Command.Text
import PipedQuery.Pipeline
import PipedQuery.Token.Listing

/-!
# Printouts

What each command of the console program prints, and whether it counts as a success.
-/

namespace PipedQuery

/-- A text to print, and whether the query passed. -/
structure Printout where
  text : String
  success : Bool
deriving DecidableEq

namespace Printout

/-- The tokens of a query, as a listing or as JSON. -/
def tokens (query : String) (all json : Bool) : Printout :=
  let tokens := scan query
  if json then ⟨(Json.arr ((listed all tokens).map Token.toJson)).pretty ++ "\n", true⟩
  else ⟨listing all tokens, true⟩

/-- How to print a parsed query. -/
inductive TreeFormat where
  | compact
  | pretty
  | canonical
deriving DecidableEq

/-- The tree and the diagnostics of a query, or its canonical text. -/
def tree (query : String) (format : TreeFormat) : Printout :=
  let r := parse query
  let text :=
    match format with
    | .compact => r.toJson.compact
    | .pretty => r.toJson.pretty
    | .canonical => r.query.text
  ⟨text ++ "\n", r.isSuccess⟩

/-- How to print the check of a query. -/
inductive CheckFormat where
  | text
  | json
deriving DecidableEq

/-- The last line of a check. -/
def verdict (r : ParseResult) : String :=
  let errors := r.errors.length
  let warnings := r.warnings.length
  if errors = 0 && warnings = 0 then
    let n := r.query.commands.length
    "Query is valid (" ++ toString n ++ (if n = 1 then " command" else " commands") ++ ")\n"
  else toString errors ++ " error(s), " ++ toString warnings ++ " warning(s)\n"

/-- The diagnostics of a query with a verdict, or the whole parse as JSON.  Warnings alone do not
    fail the check. -/
def check (query : String) (format : CheckFormat) (failFast : Bool) : Printout :=
  let r := parseWith { recover := !failFast } query
  let text :=
    match format with
    | .json => r.toJson.pretty
    | .text => Diagnostic.report query r.diagnostics ++ verdict r
  ⟨text, r.isSuccess⟩

/-- The overview of the documentation. -/
def docs : Printout := ⟨DocPage.overview, true⟩

/-- The message on a category without a page. -/
def unknownCategory (name : String) : String :=
  "Unknown category: '" ++ name ++ "'\nRun 'ppl docs' to see available categories."

/-- The documentation page of a category, or the message that there is none. -/
def doc (category : String) : Except String Printout :=
  match DocPage.ofName? category with
  | some page => .ok ⟨page.text, true⟩
  | none => .error (unknownCategory category)

end Printout

end PipedQuery
