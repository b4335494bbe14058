import CommitLens.CommandLine.Call
import CommitLens.Transcript

/-!
# The program

One call.  The arguments are those of the program, and what it sees of files and
of Git is the transcript on the first line of its standard input.
-/

open CommitLens

def main (arguments : List String) : IO UInt32 := do
  let line ← (← IO.getStdin).getLine
  match Json.parse? line with
  | none =>
      IO.eprintln "the standard input holds no transcript"
      return 1
  | some transcript =>
      let outcome := CommandLine.execute arguments (Transcript.world transcript)
      IO.eprint outcome.errors
      for (names, content) in outcome.files do
        IO.FS.writeFile (Path.ofNames names) content
      IO.print outcome.output
      return UInt32.ofNat outcome.exitCode
