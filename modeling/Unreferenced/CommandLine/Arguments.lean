import Unreferenced.Text.Pieces

/-!
# Arguments of the command line

The program has the commands `unused` and `kinds`.  Options may be written
`--name value`, `--name=value`, `-nvalue`, `-n=value` or `-n value`, and flags
of one letter may be joined.  A value of its own that starts with a dash is
taken for an option, unless it is a dash alone.  After `--` nothing is an option
any more, and no command takes other arguments.

The arguments are read from left to right, and the first thing that settles what
to do counts: a fault, or a request for help or for the version.
-/

namespace Unreferenced
namespace CommandLine

/-! ## Commands -/

/-- The form in which a result is printed. -/
inductive OutputFormat
  | text
  | json
deriving DecidableEq, Repr

/-- What to check, and where to put the result. -/
structure Check where
  corpus : String
  kind : String
  jobs : Nat
  format : OutputFormat
  output? : Option String
  quiet : Bool
deriving DecidableEq, Repr

/-- What help is asked for. -/
inductive HelpTopic
  /-- The program, in few words or in full. -/
  | program (full : Bool)
  | unused
  | kinds
  | help
deriving DecidableEq, Repr

/-- What the arguments ask for. -/
inductive Request
  | unused (check : Check)
  | kinds
  | help (topic : HelpTopic)
  | version
  /-- Nothing sensible. -/
  | misuse
deriving DecidableEq, Repr

/-! ## Options -/

/-- The options of all commands. -/
inductive Switch
  | corpus
  | kind
  | jobs
  | format
  | output
  | quiet
  | verbose
  | help
  | version
deriving DecidableEq, Repr

namespace Switch

/-- The word after two dashes. -/
def long : Switch → String
  | corpus => "corpus"
  | kind => "kind"
  | jobs => "jobs"
  | format => "format"
  | output => "output"
  | quiet => "quiet"
  | verbose => "verbose"
  | help => "help"
  | version => "version"

/-- The letter after one dash. -/
def short : Switch → Char
  | corpus => 'c'
  | kind => 'k'
  | jobs => 'j'
  | format => 'f'
  | output => 'o'
  | quiet => 'q'
  | verbose => 'v'
  | help => 'h'
  | version => 'V'

/-- Whether a value belongs to the option. -/
def takesValue : Switch → Bool
  | corpus | kind | jobs | format | output => true
  | quiet | verbose | help | version => false

end Switch

/-- A value of an option, once it is understood. -/
inductive Setting
  | corpus (path : String)
  | kind (text : String)
  | jobs (number : Nat)
  | format (format : OutputFormat)
  | output (path : String)
  | flag (switch : Switch)
deriving DecidableEq, Repr

/-- The option that a setting belongs to. -/
def Setting.switch : Setting → Switch
  | corpus _ => .corpus
  | kind _ => .kind
  | jobs _ => .jobs
  | format _ => .format
  | output _ => .output
  | flag switch => switch

/-- The largest number of jobs. -/
def maxJobs : Nat := 18446744073709551615

/-- The number that a text of digits means, if it has at most 64 bits.  A plus
sign may stand before it. -/
def readJobs (cs : List Char) : Option Nat :=
  let ds := match cs with
    | '+' :: rest => rest
    | cs => cs
  if ds.isEmpty || !ds.all Char.isDigit then none
  else
    let n := ds.foldl (fun n c => 10 * n + (c.toNat - '0'.toNat)) 0
    if n ≤ maxJobs then some n else none

/-- The setting that a value makes of an option. -/
def Setting.ofValue? (switch : Switch) (value : List Char) : Option Setting :=
  let text := String.ofList value
  match switch with
  | .corpus => if value.isEmpty then none else some (.corpus text)
  | .kind => some (.kind text)
  | .jobs => (readJobs value).map .jobs
  | .format =>
    if text == "text" then some (.format .text)
    else if text == "json" then some (.format .json)
    else none
  | .output => if value.isEmpty then none else some (.output text)
  | _ => none

/-! ## Reading one level

The options before the command and those after it are read in the same way. -/

/-- Why reading stops before the end. -/
inductive Stop
  /-- Help is asked for, in full or in few words. -/
  | help (full : Bool)
  | version
  | misuse
deriving DecidableEq, Repr

/-- Adds a setting.  No option may be given twice. -/
def addSetting (found : List Setting) (setting : Setting) : Except Stop (List Setting) :=
  if found.any (·.switch == setting.switch) then .error .misuse else .ok (found ++ [setting])

/-- Adds the value of an option. -/
def addValue (found : List Setting) (switch : Switch) (value : List Char) :
    Except Stop (List Setting) :=
  match Setting.ofValue? switch value with
  | some setting => addSetting found setting
  | none => .error .misuse

/-- Adds a flag, or does what it asks for.  The word for help asks for it in
full, the letter does not. -/
def addFlag (found : List Setting) (switch : Switch) (isWord : Bool) :
    Except Stop (List Setting) :=
  match switch with
  | .help => .error (.help isWord)
  | .version => .error .version
  | _ => addSetting found (.flag switch)

/-- Settings found so far, and the option whose value must come next. -/
abbrev Progressed := List Setting × Option Switch

/-- Reads the letters after one dash. -/
def readLetters (known : List Switch) : List Char → List Setting → Except Stop Progressed
  | [], found => .ok (found, none)
  | c :: rest, found =>
    match known.find? (·.short == c) with
    | none => .error .misuse
    | some switch =>
      if switch.takesValue then
        match rest with
        | [] => .ok (found, some switch)
        | '=' :: value => do
          let found ← addValue found switch value
          return (found, none)
        | value => do
          let found ← addValue found switch value
          return (found, none)
      else do
        let found ← addFlag found switch false
        readLetters known rest found

/-- Reads the word after two dashes. -/
def readWord (known : List Switch) (cs : List Char) (found : List Setting) :
    Except Stop Progressed :=
  let name := cs.takeWhile (· != '=')
  match known.find? (·.long.toList == name) with
  | none => .error .misuse
  | some switch =>
    match cs.dropWhile (· != '='), switch.takesValue with
    | [], true => .ok (found, some switch)
    | [], false => do
      let found ← addFlag found switch true
      return (found, none)
    | _ :: value, true => do
      let found ← addValue found switch value
      return (found, none)
    | _ :: _, false => .error .misuse

/-- Reads arguments up to the first that names a command.  `pending` is the
option whose value comes next. -/
def readLevel (known : List Switch) (commands : List String) :
    List String → Option Switch → List Setting →
      Except Stop (List Setting × Option (String × List String))
  | [], some _, _ => .error .misuse
  | [], none, found => .ok (found, none)
  | arg :: rest, pending, found =>
    match arg.toList, pending with
    | '-' :: _ :: _, some _ => .error .misuse
    | value, some switch => do
      let found ← addValue found switch value
      readLevel known commands rest none found
    | ['-', '-'], none => if rest.isEmpty then .ok (found, none) else .error .misuse
    | '-' :: '-' :: word, none => do
      let (found, pending) ← readWord known word found
      readLevel known commands rest pending found
    | '-' :: c :: letters, none => do
      let (found, pending) ← readLetters known (c :: letters) found
      readLevel known commands rest pending found
    | _, none =>
      if commands.contains arg then .ok (found, some (arg, rest)) else .error .misuse

/-! ## Reading all arguments -/

/-- The options before the command. -/
def programSwitches : List Switch := [.verbose, .help, .version]

/-- The options of `kinds`. -/
def kindsSwitches : List Switch := [.verbose, .help]

/-- The options of `unused`. -/
def unusedSwitches : List Switch :=
  [.corpus, .kind, .jobs, .format, .output, .quiet, .verbose, .help]

/-- The commands. -/
def commandNames : List String := ["unused", "kinds", "help"]

/-- The check that some settings describe, if they say what to check. -/
def checkOf? (found : List Setting) : Option Check := do
  let corpus ← found.findSome? fun
    | .corpus path => some path
    | _ => none
  let kind ← found.findSome? fun
    | .kind text => some text
    | _ => none
  let jobs := found.findSome? fun
    | .jobs number => some number
    | _ => none
  let format := found.findSome? fun
    | .format format => some format
    | _ => none
  let output := found.findSome? fun
    | .output path => some path
    | _ => none
  return {
    corpus := corpus
    kind := kind
    jobs := jobs.getD 0
    format := format.getD .text
    output? := output
    quiet := found.contains (.flag .quiet) }

/-- What is asked for when reading stops; `topic` is the help of the level. -/
def Stop.request (topic : Bool → HelpTopic) : Stop → Request
  | help full => .help (topic full)
  | version => .version
  | misuse => .misuse

/-- What the arguments after `unused` ask for. -/
def unusedRequest (args : List String) : Request :=
  match readLevel unusedSwitches [] args none [] with
  | .error stop => stop.request fun _ => .unused
  | .ok (found, _) =>
    match checkOf? found with
    | some check => .unused check
    | none => .misuse

/-- What the arguments after `kinds` ask for. -/
def kindsRequest (args : List String) : Request :=
  match readLevel kindsSwitches [] args none [] with
  | .error stop => stop.request fun _ => .kinds
  | .ok _ => .kinds

/-- What the arguments after `help` ask for. -/
def helpRequest : List String → Request
  | [] => .help (.program true)
  | [name] =>
    if name == "unused" then .help .unused
    else if name == "kinds" then .help .kinds
    else if name == "help" then .help .help
    else .misuse
  | _ => .misuse

/-- What the arguments of the program ask for. -/
def Request.ofArguments (args : List String) : Request :=
  match readLevel programSwitches commandNames args none [] with
  | .error stop => stop.request .program
  | .ok (_, some (name, rest)) =>
    if name == "unused" then unusedRequest rest
    else if name == "kinds" then kindsRequest rest
    else helpRequest rest
  | .ok (_, none) => .misuse

end CommandLine
end Unreferenced
