import Unreferenced.CommandLine.Program

/-!
# A world to run the program in

A world has a standard output and files, some of which cannot be written.  The
program runs in it as it runs on a machine.
-/

namespace Unreferenced
namespace CommandLine

/-- What the program finds where it runs. -/
structure World where
  /-- What has been printed. -/
  stdout : String
  files : String → Option ByteArray
  writable : String → Bool
  /-- What a failed attempt to write a file leaves of it. -/
  remains : String → Option ByteArray
  /-- The nanoseconds that a scan takes. -/
  elapsed : Nat

namespace World

/-- The world after this text has been printed. -/
def print (text : String) (w : World) : World := { w with stdout := w.stdout ++ text }

/-- The world after an attempt to write this text to a file. -/
def save (path text : String) (w : World) : World :=
  let left := if w.writable path then some text.toUTF8 else w.remains path
  { w with files := fun other => if other = path then left else w.files other }

/-- Does something.  Printing always works, and writing where files can be written. -/
def perform : Effect → StateM World Bool
  | .print text => fun w => (true, w.print text)
  | .save path text => fun w => (w.writable path, w.save path text)

/-- The program reads the files of the world and takes its time for a scan. -/
def surroundings : Surroundings (StateM World) where
  read path := fun w => (w.files path, w)
  timed report? := fun w => ((report? (), w.elapsed), w)
  perform := perform

end World
end CommandLine
end Unreferenced
