import PipedQuery.Console.CommandLine

/-!
# The program `ppl`

Scans, parses and checks queries from the command line.
-/

namespace PipedQuery

/-- All bytes of a stream, behind those read before. -/
partial def readBytes (stream : IO.FS.Stream) (before : ByteArray) : IO ByteArray := do
  let chunk ← stream.read 65536
  if chunk.isEmpty then return before
  readBytes stream (before ++ chunk)

/-- The standard input, unless it is a terminal. -/
def readInput : IO ByteArray := do
  let stdin ← IO.getStdin
  if ← stdin.isTty then return ByteArray.empty
  readBytes stdin ByteArray.empty

end PipedQuery

open PipedQuery in
/-- Runs the program on its arguments. -/
def main (args : List String) : IO UInt32 := do
  let needsInput := (CommandLine.request? ⟨[], []⟩ args).any CommandLine.readsInput
  let input ← if needsInput then readInput else pure ByteArray.empty
  let exit := CommandLine.run args input
  match exit with
  | .usage => IO.eprintln "error: wrong usage"
  | .done _ out err =>
    IO.print out
    IO.eprint err
  return exit.code.toUInt32
