import PipedQuery.Console.Printout

/-!
# The command line

The arguments of the console program `ppl`, and what it prints for them.  Long flags take their
value behind `=` or as the next argument, short ones may also have it directly behind them, `--`
ends the flags, and no flag may be given twice.
-/

namespace PipedQuery

/-- What the program is asked to do.  A query that is not given comes from the input. -/
inductive Request where
  | version
  | tokens (query : Option String) (all json : Bool)
  | parse (query : Option String) (format : Printout.TreeFormat)
  | check (query : Option String) (format : Printout.CheckFormat) (failFast : Bool)
  | docs
  | doc (category : String)
deriving DecidableEq

namespace CommandLine

/-- The flags of the program and of its commands. -/
inductive Flag where
  | logLevel
  | all
  | json
  | pretty
  | canonical
  | format
  | failFast
deriving DecidableEq

/-- Whether the flag has a value. -/
def Flag.hasValue : Flag → Bool
  | .logLevel | .format => true
  | _ => false

/-- The long name. -/
def Flag.long : Flag → String
  | .logLevel => "log-level"
  | .all => "all"
  | .json => "json"
  | .pretty => "pretty"
  | .canonical => "canonical"
  | .format => "format"
  | .failFast => "fail-fast"

/-- The short name, if there is one. -/
def Flag.short? : Flag → Option Char
  | .all => some 'a'
  | .pretty => some 'p'
  | .format => some 'f'
  | _ => none

/-- The arguments of a command: flags with their values, and the others in order. -/
structure Arguments where
  flags : List (Flag × String)
  positional : List String

namespace Arguments

/-- Whether a flag is given. -/
def has (a : Arguments) (flag : Flag) : Bool := a.flags.any fun f => f.1 = flag

/-- The value of a flag. -/
def value? (a : Arguments) (flag : Flag) : Option String :=
  (a.flags.find? fun f => f.1 = flag).map (·.2)

/-- The arguments with one more flag, unless it is there already. -/
def addFlag (a : Arguments) (flag : Flag) (value : String) : Option Arguments :=
  if a.has flag then none else some { a with flags := (flag, value) :: a.flags }

end Arguments

/-- Reads a cluster of short flags, and says which flag still waits for its value. -/
def readShort (known : List Flag) (a : Arguments) :
    List Char → Option (Arguments × Option Flag)
  | [] => some (a, none)
  | c :: cs =>
    match known.find? fun f => f.short? = some c with
    | none => none
    | some flag =>
      if flag.hasValue then
        match cs with
        | [] => some (a, some flag)
        | '=' :: value => (a.addFlag flag (String.ofList value)).map (·, none)
        | value => (a.addFlag flag (String.ofList value)).map (·, none)
      else (a.addFlag flag "").bind fun a => readShort known a cs

/-- Reads a long flag, and says whether it still waits for its value. -/
def readLong (known : List Flag) (a : Arguments) (cs : List Char) :
    Option (Arguments × Option Flag) :=
  let name := String.ofList (cs.takeWhile (· != '='))
  match known.find? fun f => f.long == name, cs.dropWhile (· != '=') with
  | none, _ => none
  | some flag, [] => if flag.hasValue then some (a, some flag) else (a.addFlag flag "").map (·, none)
  | some flag, _ :: value =>
    if flag.hasValue then (a.addFlag flag (String.ofList value)).map (·, none) else none

/-- Whether an argument is no flag.  A single hyphen is none. -/
def isPlain (arg : String) : Bool := arg.toList.head? != some '-' || arg == "-"

/-- Reads the flag `arg`. -/
def readFlag (known : List Flag) (a : Arguments) (arg : String) :
    Option (Arguments × Option Flag) :=
  match arg.toList with
  | '-' :: '-' :: cs => readLong known a cs
  | _ :: cs => readShort known a cs
  | [] => none

/-- Reads the arguments of a command that knows some flags. -/
def read (known : List Flag) (a : Arguments) : List String → Option Arguments
  | [] => some a
  | arg :: args =>
    if arg == "--" then some { a with positional := a.positional ++ args }
    else if isPlain arg then read known { a with positional := a.positional ++ [arg] } args
    else match readFlag known a arg with
      | none => none
      | some (a, none) => read known a args
      | some (a, some flag) =>
        match args with
        | [] => none
        | value :: args =>
          if isPlain value then (a.addFlag flag value).bind fun a => read known a args else none

/-- The query among the arguments, of which there may be one. -/
def query? (a : Arguments) : Option (Option String) :=
  match a.positional with
  | [] => some none
  | [query] => some (some query)
  | _ => none

/-- The format of a check. -/
def checkFormat? (a : Arguments) : Option Printout.CheckFormat :=
  match a.value? .format with
  | none => some .text
  | some value => if value = "text" then some .text else if value = "json" then some .json else none

/-- The request of a command with its arguments. -/
def commandRequest? (command : String) (args : List String) : Option Request :=
  let readWith := fun flags => read (.logLevel :: flags) ⟨[], []⟩ args
  if command = "tokens" then do
    let a ← readWith [.all, .json]
    return .tokens (← query? a) (a.has .all) (a.has .json)
  else if command = "parse" then do
    let a ← readWith [.pretty, .canonical]
    let query ← query? a
    if a.has .pretty && a.has .canonical then none
    else if a.has .pretty then return .parse query .pretty
    else if a.has .canonical then return .parse query .canonical
    else return .parse query .compact
  else if command = "check" then do
    let a ← readWith [.format, .failFast]
    return .check (← query? a) (← checkFormat? a) (a.has .failFast)
  else if command = "docs" then do
    let a ← readWith []
    if a.positional.isEmpty then return .docs else none
  else if command = "doc" then do
    let a ← readWith []
    match a.positional with
    | [category] => return .doc category
    | _ => none
  else none

/-- The request of all arguments: flags of the program, a command and the command's arguments. -/
def request? (a : Arguments) : List String → Option Request
  | [] => none
  | arg :: args =>
    if arg == "--version" || arg.toList.take 2 == ['-', 'V'] then some .version
    else if isPlain arg then commandRequest? arg args
    else match readFlag [.logLevel] a arg with
      | none => none
      | some (a, none) => request? a args
      | some (a, some flag) =>
        match args with
        | [] => none
        | value :: args =>
          if isPlain value then (a.addFlag flag value).bind fun a => request? a args else none

end CommandLine

/-- How a run of the program ends: with its exit code and what it wrote, or with a message on wrong
    usage. -/
inductive Exit where
  | usage
  | done (code : Nat) (out err : String)
deriving DecidableEq

/-- The exit code of the run. -/
def Exit.code : Exit → Nat
  | .usage => 2
  | .done code _ _ => code

namespace CommandLine

/-- The version that the program reports. -/
def version : String := "0.2.0"

/-- The query that stands in the input, without the line ends behind it. -/
def queryOfInput (input : ByteArray) : Except String String :=
  match String.fromUTF8? input with
  | none => .error "IO error: stream did not contain valid UTF-8"
  | some text =>
    let query := (text.toList.reverse.dropWhile fun c => c = '\n' || c = '\r').reverse
    if query.isEmpty then
      .error "No query provided. Pass it as an argument or pipe it to stdin."
    else .ok (String.ofList query)

/-- The query that is given, or else the one in the input. -/
def theQuery (input : ByteArray) : Option String → Except String String
  | some query => .ok query
  | none => queryOfInput input

/-- Whether the query of a request stands in the input. -/
def readsInput : Request → Bool
  | .tokens none _ _ | .parse none _ | .check none _ _ => true
  | _ => false

/-- The answer to a request. -/
def answer (input : ByteArray) : Request → Except String Printout
  | .version => .ok ⟨"ppl " ++ version ++ "\n", true⟩
  | .tokens query all json => do return .tokens (← theQuery input query) all json
  | .parse query format => do return .tree (← theQuery input query) format
  | .check query format failFast => do return .check (← theQuery input query) format failFast
  | .docs => .ok .docs
  | .doc category => Printout.doc category

/-- Runs the program. -/
def run (args : List String) (input : ByteArray) : Exit :=
  match request? ⟨[], []⟩ args with
  | none => .usage
  | some request =>
    match answer input request with
    | .ok printout => .done (if printout.success then 0 else 1) printout.text ""
    | .error message => .done 1 "" (message ++ "\n")

end CommandLine

end PipedQuery
