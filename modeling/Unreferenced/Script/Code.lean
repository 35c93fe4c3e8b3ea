import Unreferenced.Content
import Unreferenced.IdentitySet
import Unreferenced.Script.Balance
import Unreferenced.Text.Word

/-!
# Compiled scripts

The compiled form of a script has one statement on a line, between a header
that names the script kind and an end marker:

    SC action
    GiveItem("RING01.ITM",Player1)
    SC

Blank lines and the blank characters around a statement do not count.  The
resources that a script refers to are the file names in quotes whose extension
is a known kind.
-/

namespace Unreferenced
namespace Script

/-! ## Statements and markers -/

/-- The lines of a text, trimmed, without the blank ones. -/
def statements (cs : List Char) : List (List Char) :=
  ((Text.lines cs).map Text.trim).filter fun line => !line.isEmpty

/-- The word that opens and closes compiled code. -/
def marker : List Char := ['S', 'C']

/-- The first line of compiled code. -/
def header (kind : ScriptKind) : List Char :=
  marker ++ ' ' :: kind.word.toList

/-! ## Compiling -/

/-- The compiled form of a source. -/
def compile (source : String) (kind : ScriptKind) : Except ScriptError String :=
  match checkBalanced source.toList with
  | .error fault => .error (.compile fault)
  | .ok () =>
    .ok (String.ofList
      (Text.endLines (header kind :: statements source.toList ++ [marker])))

/-! ## Quoted file names -/

/-- The stretches of a line between its first and second quote, its third and
fourth, and so on.  The second argument is the stretch being read, backwards. -/
def stretches : List Char → Option (List Char) → List (List Char)
  | [], _ => []
  | c :: rest, none => if c = '"' then stretches rest (some []) else stretches rest none
  | c :: rest, some read =>
    if c = '"' then read.reverse :: stretches rest none else stretches rest (some (c :: read))

/-- The stretches of a line that stand in quotes. -/
def quoted (line : List Char) : List (List Char) := stretches line none

/-- Whether a text is the name of a resource: one to eight word characters. -/
def isResourceName (cs : List Char) : Bool :=
  1 ≤ cs.length && cs.length ≤ 8 && cs.all Text.isWord

/-- Whether a text is an extension: two to four ASCII letters and digits. -/
def isExtension (cs : List Char) : Bool :=
  2 ≤ cs.length && cs.length ≤ 4 && cs.all Char.isAlphanum

/-- The resource that a quoted stretch refers to, if it is the file name of a
known kind. -/
def reference? (stretch : List Char) : Option Identity :=
  match Text.splitLast? '.' stretch with
  | some (name, extension) =>
    let kind := Kind.ofText (String.ofList extension)
    if isResourceName name && isExtension extension && kind.isKnown then
      some (Identity.ofParts (String.ofList name) kind)
    else none
  | none => none

/-- The resources that some lines of code refer to. -/
def references (lines : List (List Char)) : IdentitySet :=
  IdentitySet.ofList ((lines.flatMap quoted).filterMap reference?)

/-! ## Decompiling -/

/-- What decompiling gives back. -/
structure Decompiled where
  source : String
  references : IdentitySet

/-- The source of compiled code of a kind, and the resources it refers to. -/
def decompile (bytecode : String) (kind : ScriptKind) : Except ScriptError Decompiled :=
  match statements bytecode.toList with
  | [] => .error (.decompile .empty)
  | first :: rest =>
    if first = header kind then
      if rest.getLast? = some marker then
        .ok ⟨String.ofList (Text.joinLines rest.dropLast), references rest.dropLast⟩
      else .error (.decompile .missingEnd)
    else
      .error (.decompile (.wrongHeader (String.ofList (header kind)) (String.ofList first)))

/-! ## Compilers -/

/-- A tool that compiles and decompiles scripts. -/
structure Compiler where
  compile : String → ScriptKind → Except ScriptError String
  decompile : String → ScriptKind → Except ScriptError Decompiled

/-- The resources that a source refers to, found by compiling it and looking at
the code. -/
def Compiler.recover (compiler : Compiler) (source : String) (kind : ScriptKind) :
    Except ScriptError IdentitySet := do
  let bytecode ← compiler.compile source kind
  let decompiled ← compiler.decompile bytecode kind
  return decompiled.references

/-- The compiler that keeps the statements of a source as they are. -/
def literal : Compiler := ⟨compile, decompile⟩

/-- The resources that a source refers to as this compiler sees it. -/
def recover (source : String) (kind : ScriptKind) : Except ScriptError IdentitySet :=
  literal.recover source kind

end Script
end Unreferenced
