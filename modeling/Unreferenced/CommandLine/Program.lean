import Unreferenced.CommandLine.Answer

/-!
# The program in its surroundings

The program reads the corpus file, scans the corpus, and carries its answer
out.  How files are read, time is measured, and things are done is left to the
surroundings.
-/

namespace Unreferenced
namespace CommandLine

/-- What the program needs from where it runs. -/
structure Surroundings (m : Type → Type) where
  /-- The bytes of a file, if it can be read. -/
  read : String → m (Option ByteArray)
  /-- A report, and the nanoseconds that it took. -/
  timed : (Unit → Option Report) → m (Option Report × Nat)
  /-- Does something, and tells whether that was possible. -/
  perform : Effect → m Bool

/-- The program, which ends with the status of its answer. -/
def program {m : Type → Type} [Monad m] (around : Surroundings m) (args : List String) :
    m UInt32 := do
  let request := Request.ofArguments args
  let file? ← match request.corpus? with
    | some path => around.read path
    | none => pure none
  let (report?, nanos) ← around.timed fun _ => request.report? 1 file?
  (request.answer (report?.map (·.lasting (Duration.ofNanos nanos)))).carryOut around.perform

end CommandLine
end Unreferenced
