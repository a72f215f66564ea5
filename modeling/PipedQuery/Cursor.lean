import PipedQuery.Pipeline

/-!
# Parsing in one pass

A session is cut into stages before any of them is read, and no parser is ever shown a pipe.  A
`Cursor` walks through all the tokens of a text instead.  It is the whole state of the parser: the
tokens, how many of them have been passed, the diagnostics that are kept, and how many levels of an
expression are open.

The grammar is the same one.  But here a pipe is a token like others, so nothing keeps a parser from
reading on behind it, and the levels are counted while they are opened and closed.
-/

namespace PipedQuery

/-- The diagnostics that are kept when one more is raised, with room for `limit` of them. -/
def Diagnostic.keep (limit : Nat) (kept : List Diagnostic) (d : Diagnostic) : List Diagnostic :=
  if kept.length < limit then kept ++ [d] else kept

/-- A place among all tokens of a text, and what else a parser works with there. -/
structure Cursor where
  tokens : List Token
  /-- How many tokens have been passed. -/
  pos : Nat
  /-- Where the text ends. -/
  stop : Position
  options : ParseOptions
  /-- The diagnostics that are kept. -/
  diagnostics : List Diagnostic
  /-- How many levels of an expression are open. -/
  depth : Nat

namespace Cursor

/-- The cursor in front of the significant ones of some tokens, with their lexical diagnostics. -/
def ofTokens (tokens : List Token) (options : ParseOptions) : Cursor :=
  { tokens := tokens.filter fun t => t.isSignificant
    pos := 0
    stop := Session.endOf tokens
    options
    diagnostics := (lexicalDiagnostics tokens).take options.maxDiagnostics
    depth := 0 }

/-- The next token. -/
def next? (c : Cursor) : Option Token := c.tokens[c.pos]?

/-- Whether all tokens have been passed. -/
def atEnd (c : Cursor) : Bool := c.next?.isNone

/-- Whether a stage ends here, at a pipe or at the end of all tokens. -/
def atBoundary (c : Cursor) : Bool := c.next?.all Token.isPipe

/-- Passes over so many tokens, whatever they are. -/
def advance (n : Nat) (c : Cursor) : Cursor := { c with pos := c.pos + n }

theorem pos_lt_of_not_atBoundary {c : Cursor} (inside : ¬c.atBoundary = true) :
    c.pos < c.tokens.length := by
  refine Nat.lt_of_not_le fun past => inside ?_
  rw [atBoundary, next?, List.getElem?_eq_none past]
  rfl

/-- Passes over tokens up to the next boundary. -/
def synchronize (c : Cursor) : Cursor :=
  if c.atBoundary then c else (c.advance 1).synchronize
termination_by c.tokens.length - c.pos
decreasing_by
  next inside =>
  have := pos_lt_of_not_atBoundary inside
  simp only [advance]
  omega

/-- The diagnostic of an issue.  It concerns the token in front of which so many were left. -/
def diagnose (c : Cursor) (issue : Issue) : Diagnostic :=
  issue.cause.diagnose c.stop c.tokens[c.tokens.length - issue.remaining]?

/-- Some diagnostics and that of an issue, if there is room for it. -/
def keep (c : Cursor) (ds : List Diagnostic) (issue : Issue) : List Diagnostic :=
  Diagnostic.keep c.options.maxDiagnostics ds (c.diagnose issue)

/-- Keeps the diagnostic of an issue, if there is room for it. -/
def report (c : Cursor) (issue : Issue) : Cursor :=
  { c with diagnostics := c.keep c.diagnostics issue }

/-- Whether an error is among the diagnostics. -/
def hasErrors (c : Cursor) : Bool := c.diagnostics.any Diagnostic.isError

/-- The errors, in order of place. -/
def errors (c : Cursor) : List Diagnostic :=
  Diagnostic.sorted (c.diagnostics.filter Diagnostic.isError)

/-- The grammar sees everything up to the end of the tokens, pipes included. -/
instance : Input Cursor where
  ahead c := (c.tokens.drop c.pos).map Token.toLexeme
  drop := advance
  atEnd := atBoundary
  close := synchronize
  note issue c := c.report issue

variable {α : Type}

/-- Runs a parser one level deeper, unless too many levels are open. -/
def nested (p : Parser Cursor α) : Parser Cursor α := fun c =>
  if maxNesting ≤ c.depth then Parser.fail .nestedTooDeeply c
  else
    let o := p { c with depth := c.depth + 1 }
    { o with rest := { o.rest with depth := o.rest.depth - 1 } }

/-- The grammar of expressions, unfolded `n` times. -/
def level : Nat → Grammar Cursor
  | 0 => .ofUnary (Parser.fail .nestedTooDeeply) (Parser.fail .nestedTooDeeply)
  | n + 1 =>
    let deeper := level n
    .ofUnary (nested (Grammar.signed deeper)) (nested deeper.negation)

/-- The grammar of expressions.  No more levels than these can be open. -/
def grammar : Grammar Cursor := level maxNesting

/-- Reads one expression. -/
def expression : Parser Cursor Expr := grammar.expression

/-- Reads one command, which is the first one of a query or a later one. -/
def command (first : Bool) : Parser Cursor Command := Parser.command grammar first

/-- Passes over a pipe, if one comes next.  Something has to follow it. -/
def passPipe (c : Cursor) : Cursor :=
  if c.next?.any Token.isPipe then
    let c := c.advance 1
    if c.atEnd then c.report ⟨.missing .nextCommand, 0⟩ else c
  else c

/-- Reads command after command up to the end.  Unless parsing recovers from errors, it stops behind
    the first stage at which an error is among the diagnostics. -/
def commands (first : Bool) (c : Cursor) : List Command × Cursor :=
  if c.atEnd then ([], c)
  else
    let o := Parser.stageWith grammar first c
    let found := o.result.toOption.join.toList
    if !o.rest.options.recover && o.rest.hasErrors then (found, o.rest)
    else
      let c' := o.rest.passPipe
      -- behind a stage comes a pipe, or the end
      if (Input.ahead c').length < (Input.ahead c).length then
        let (more, last) := commands false c'
        (found ++ more, last)
      else (found, c')
termination_by (Input.ahead c).length

/-- Parses everything that is left as a query. -/
def query (c : Cursor) : ParseResult :=
  let c := if c.atEnd then c.report ⟨.missing .firstCommand, 0⟩ else c
  let (commands, c) := c.commands true
  ⟨⟨commands⟩, Diagnostic.sorted c.diagnostics⟩

/-- Reads one expression that has to be all that is left. -/
def standalone (c : Cursor) : Except (List Diagnostic) Expr :=
  match expression c with
  | ⟨.ok e, c, _⟩ =>
    if c.atEnd then if c.hasErrors then .error c.errors else .ok e
    else .error (c.report ⟨.expected .expressionEnd, (Input.ahead c).length⟩).errors
  | ⟨.error issue, c, _⟩ => .error (c.report issue).errors

/-- Parses a query in one pass. -/
def parseWith (options : ParseOptions) (text : String) : ParseResult :=
  (ofTokens (scan text) options).query

/-- Parses a text that is a single expression in one pass. -/
def parseExpression (text : String) : Except (List Diagnostic) Expr :=
  (ofTokens (scan text) {}).standalone

end Cursor

end PipedQuery
