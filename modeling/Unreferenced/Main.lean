import Unreferenced.CommandLine.Program

/-!
# The program

Runs the program on the machine's own files, clock and standard output.
-/

namespace Unreferenced
namespace CommandLine

/-- The bytes of a file, if it can be read. -/
def readFile? (path : String) : IO (Option ByteArray) := do
  try
    return some (← IO.FS.readBinFile path)
  catch _ =>
    return none

/-- Writes a file and says whether that was possible. -/
def writeFile (path : String) (text : String) : IO Bool := do
  try
    IO.FS.writeFile path text
    return true
  catch _ =>
    return false

/-- The machine on which the program runs. -/
def machine : Surroundings IO where
  read := readFile?
  timed report? := do
    let start ← IO.monoNanosNow
    let result ← IO.lazyPure report?
    let stop ← IO.monoNanosNow
    return (result, stop - start)
  perform
    | .print text => do
      IO.print text
      (← IO.getStdout).flush
      return true
    | .save path text => writeFile path text

end CommandLine
end Unreferenced

open Unreferenced CommandLine in
/-- The program. -/
def main (args : List String) : IO UInt32 :=
  program machine args
