import Unreferenced.CommandLine.Arguments

/-!
# Help texts

What the program prints when it is asked for help or for its version.
-/

namespace Unreferenced
namespace CommandLine

/-- The name and the version of the program. -/
def versionLine : String := "refsweep 0.1.0\n"

/-- Rows of two columns.  The second column is two blanks right of the longest
entry of the first. -/
def columns (rows : List (String × String)) : List String :=
  let width := (rows.map (·.1.length)).foldl max 0
  rows.map fun (left, right) =>
    "  " ++ left ++ String.ofList (List.replicate (width - left.length + 2) ' ') ++ right

/-- Rows with the second entry below the first, and a blank line between rows. -/
def stacked (rows : List (String × String)) : List String :=
  List.intercalate [""] (rows.map fun (left, right) => ["  " ++ left, "          " ++ right])

/-- The row of the flag that all commands know. -/
def verboseRow : String × String :=
  ("-v, --verbose", "Log debug output (overridden by RUST_LOG)")

/-- The row of the flag that asks for help, with a remark. -/
def helpRow (remark : String) : String × String :=
  ("-h, --help", "Print help" ++ remark)

/-- The commands of the program. -/
def commandRows : List (String × String) :=
  [("unused", "List unused resources of one kind"),
    ("kinds", "List the kinds that can be checked"),
    ("help", "Print this message or the help of the given subcommand(s)")]

/-- The options of the command that lists unused resources. -/
def unusedRows : List (String × String) :=
  [("-c, --corpus <CORPUS>", "Corpus manifest (JSON)"),
    verboseRow,
    ("-k, --kind <KIND>", "Resource kind to check (e.g. ITM, SPL, WAV)"),
    ("-j, --jobs <JOBS>", "Maximum number of concurrent jobs (0 = number of CPUs) [default: 0]"),
    ("-f, --format <FORMAT>", "Output format [default: text] [possible values: text, json]"),
    ("-o, --output <OUTPUT>", "Also save the report to this file"),
    ("-q, --quiet", "Do not print progress to stderr"),
    helpRow ""]

/-- The lines of a help text. -/
def helpLines : HelpTopic → List String
  | .program full =>
    [if full then
        "refsweep inspects every resource that can carry references and reports the resources " ++
          "of one kind that nothing points at."
      else "Find unused resources in a game resource corpus",
      "", "Usage: refsweep [OPTIONS] <COMMAND>", "", "Commands:"] ++
    columns commandRows ++ ["", "Options:"] ++
    (if full then
      stacked [verboseRow, helpRow " (see a summary with '-h')", ("-V, --version", "Print version")]
    else
      columns [verboseRow, helpRow " (see more with '--help')", ("-V, --version", "Print version")])
  | .unused =>
    ["List unused resources of one kind", "",
      "Usage: refsweep unused [OPTIONS] --corpus <CORPUS> --kind <KIND>", "", "Options:"] ++
    columns unusedRows
  | .kinds =>
    ["List the kinds that can be checked", "", "Usage: refsweep kinds [OPTIONS]", "",
      "Options:"] ++
    columns [verboseRow, helpRow ""]
  | .help =>
    ["Print this message or the help of the given subcommand(s)", "",
      "Usage: refsweep help [COMMAND]...", "", "Arguments:"] ++
    columns [("[COMMAND]...", "Print help for the subcommand(s)")]

end CommandLine
end Unreferenced
