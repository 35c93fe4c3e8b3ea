/-!
# Faults of scripts

What can be wrong with a script source or with compiled code, and how it is
reported.
-/

namespace Unreferenced

/-- What is wrong with a source; lines count from one. -/
inductive CompileFault
  /-- A closing parenthesis on this line has no partner before it. -/
  | unexpectedClose (line : Nat)
  /-- A quote is still open at the end of this line. -/
  | unterminated (line : Nat)
  /-- A parenthesis is still open at the end of the source. -/
  | unclosed
deriving DecidableEq, Repr

/-- What is wrong with compiled code. -/
inductive DecompileFault
  /-- There is no code at all. -/
  | empty
  /-- The first line is not the header that the script kind asks for. -/
  | wrongHeader (expected found : String)
  /-- The last line is not the end marker. -/
  | missingEnd
deriving DecidableEq, Repr

/-- A script that does not pass through the tool chain. -/
inductive ScriptError
  | compile (fault : CompileFault)
  | decompile (fault : DecompileFault)
deriving DecidableEq, Repr

namespace CompileFault

/-- What is said of the fault. -/
def detail : CompileFault → String
  | unexpectedClose line => "unexpected ')' on line " ++ toString line
  | unterminated line => "unterminated string on line " ++ toString line
  | unclosed => "unclosed '('"

end CompileFault

namespace DecompileFault

/-- What is said of the fault. -/
def detail : DecompileFault → String
  | empty => "empty bytecode"
  | wrongHeader expected found => "expected header '" ++ expected ++ "', found '" ++ found ++ "'"
  | missingEnd => "missing end marker"

end DecompileFault

namespace ScriptError

/-- The sentence that reports a failed compilation. -/
def compileSentence (detail : String) : String := "Compile error: " ++ detail

/-- The sentence that reports a failed decompilation. -/
def decompileSentence (detail : String) : String := "Decompile error: " ++ detail

/-- The sentence that reports the error. -/
def message : ScriptError → String
  | compile fault => compileSentence fault.detail
  | decompile fault => decompileSentence fault.detail

end ScriptError
end Unreferenced
