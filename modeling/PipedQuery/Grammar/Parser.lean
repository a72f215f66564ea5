import PipedQuery.Diagnostic.Cause

/-!
# Parsers

A parser reads lexemes from the front of an input.  It gives a value or an issue, what is left to
read, and the issues it has raised on the way without stopping.  An issue notes its place as the
number of lexemes that were left, so a parser never sees where a lexeme stands in the text.

What parsers read from is an `Input`.  The grammar is written for any of them.  The plainest one is
the list of the lexemes of a single stage, with nothing behind them.

`Parser.iterate` repeats a step and `Parser.fix` ties the knot of a recursive grammar.  Both go on
only while lexemes are being read, which is why every parser ends.
-/

namespace PipedQuery

/-- Something wrong, and how many lexemes were left where it was noticed. -/
structure Issue where
  cause : Cause
  remaining : Nat
deriving DecidableEq

/-- What parsers read from: lexemes up to the end of a stage, and maybe more of them behind it. -/
class Input (σ : Type) where
  /-- The lexemes that are left. -/
  ahead : σ → List Lexeme
  /-- Passes over so many lexemes. -/
  drop : Nat → σ → σ
  /-- Whether the stage is at its end. -/
  atEnd : σ → Bool
  /-- Passes over everything that is left of the stage. -/
  close : σ → σ
  /-- Takes down an issue, if the input keeps a record of them. -/
  note : Issue → σ → σ

instance : Input (List Lexeme) where
  ahead ts := ts
  drop n ts := ts.drop n
  atEnd ts := ts.isEmpty
  close _ := []
  note _ ts := ts

/-- What a parser comes to. -/
structure Outcome (σ α : Type) where
  result : Except Issue α
  rest : σ
  raised : List Issue

/-- A reader of values of type `α` from the front of an input. -/
def Parser (σ α : Type) : Type := σ → Outcome σ α

/-- A reader of values of type `α` from the front of the lexemes of a stage. -/
abbrev StageParser : Type → Type := Parser (List Lexeme)

/-- What a parser of a stage comes to. -/
abbrev StageOutcome : Type → Type := Outcome (List Lexeme)

namespace Outcome

variable {σ α β : Type}

/-- The outcome with issues raised before it. -/
def after (raised : List Issue) (o : Outcome σ α) : Outcome σ α :=
  { o with raised := raised ++ o.raised }

/-- Goes on with the value and the rest of an outcome, unless it is an issue. -/
def bind (o : Outcome σ α) (f : α → Parser σ β) : Outcome σ β :=
  match o with
  | ⟨.ok a, rest, raised⟩ => (f a rest).after raised
  | ⟨.error issue, rest, raised⟩ => ⟨.error issue, rest, raised⟩

end Outcome

namespace Parser

variable {σ α β : Type}

/-- Reads nothing and gives a value. -/
protected def pure (a : α) : Parser σ α := fun s => ⟨.ok a, s, []⟩

/-- Reads on behind a parser, unless that stops with an issue. -/
protected def bind (p : Parser σ α) (f : α → Parser σ β) : Parser σ β := fun s => (p s).bind f

instance : Monad (Parser σ) where
  pure := Parser.pure
  bind := Parser.bind

/-- Makes a value of the issue that stops a parser. -/
def attempt (p : Parser σ α) : Parser σ (Except Issue α) := fun s =>
  let o := p s
  ⟨.ok o.result, o.rest, o.raised⟩

/-- Stops at a place given by the number of lexemes left there. -/
def failAt (place : Nat) (cause : Cause) : Parser σ α := fun s => ⟨.error ⟨cause, place⟩, s, []⟩

variable [Input σ]

/-- The lexemes that are left. -/
def lexemes : Parser σ (List Lexeme) := fun s => ⟨.ok (Input.ahead s), s, []⟩

/-- The next lexeme. -/
def peek : Parser σ (Option Lexeme) := fun s => ⟨.ok (Input.ahead s).head?, s, []⟩

/-- How many lexemes are left. -/
def remaining : Parser σ Nat := fun s => ⟨.ok (Input.ahead s).length, s, []⟩

/-- Whether the stage is at its end. -/
def atEnd : Parser σ Bool := fun s => ⟨.ok (Input.atEnd s), s, []⟩

/-- Passes over `n` lexemes. -/
def skip (n : Nat) : Parser σ Unit := fun s => ⟨.ok (), Input.drop n s, []⟩

/-- Passes over everything that is left of the stage. -/
def skipAll : Parser σ Unit := fun s => ⟨.ok (), Input.close s, []⟩

/-- Stops at the next lexeme. -/
def fail (cause : Cause) : Parser σ α := fun s =>
  ⟨.error ⟨cause, (Input.ahead s).length⟩, s, []⟩

/-- Raises an issue and reads on. -/
def raise (issue : Issue) : Parser σ Unit := fun s => ⟨.ok (), Input.note issue s, [issue]⟩

/-- Raises an issue at a place given by the number of lexemes left there, and reads on. -/
def raiseAt (place : Nat) (cause : Cause) : Parser σ Unit := raise ⟨cause, place⟩

/-- Repeats a step until it gives nothing, and gives the last value.  A step that reads nothing is
    not repeated. -/
def iterate (step : α → Parser σ (Option α)) (a : α) : Parser σ α := fun s =>
  match step a s with
  | ⟨.error issue, rest, raised⟩ => ⟨.error issue, rest, raised⟩
  | ⟨.ok none, rest, raised⟩ => ⟨.ok a, rest, raised⟩
  | ⟨.ok (some a'), rest, raised⟩ =>
    if (Input.ahead rest).length < (Input.ahead s).length then (iterate step a' rest).after raised
    else ⟨.ok a', rest, raised⟩
termination_by s => (Input.ahead s).length

/-- The parser that refers to itself by way of `f`, wherever at least one lexeme has been read
    before.  Without any the expression would have no end, so that is refused. -/
def fix (f : Parser σ α → Parser σ α) : Parser σ α := fun s =>
  f (fun rest =>
    if (Input.ahead rest).length < (Input.ahead s).length then fix f rest
    else fail (.expected .expression) rest) s
termination_by s => (Input.ahead s).length

end Parser

end PipedQuery
