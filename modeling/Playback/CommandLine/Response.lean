import Playback.CommandLine.Arguments
import Playback.Fixture
import Playback.Survey

/-!
# Responses

What a command answers: the lines it prints, on both outputs, and its exit code. A response is a
function of the command, of the bytes of the file it reads, of the readings of a wall clock and of the
order in which workers finish their tasks; how long the command took is filled in by whoever prints the
lines.
-/

namespace Playback

/-- Why a file could not be read. -/
inductive ReadFault where
  | missing
  | denied
  | other (reason : String)
deriving DecidableEq, Repr

/-- The contents of a file, or why they could not be read. -/
abbrev Source := Except ReadFault ByteArray

/-- A line of output. -/
inductive Line where
  | plain (text : String)
  /-- The time that the command took stands between the two texts. -/
  | timed (before after : String)
deriving DecidableEq, Repr

/-- The text of a line, given how long the command took. -/
def Line.text (elapsed : String) : Line → String
  | plain text => text
  | timed before after => before ++ elapsed ++ after

/-- What a command answers. -/
structure Response where
  output : List Line
  errors : List String
  code : Nat
deriving DecidableEq, Repr

namespace Response

/-- Lines on the standard output. -/
def success (lines : List String) : Response := ⟨lines.map .plain, [], 0⟩

/-- Lines on the error output. -/
def failure (lines : List String) : Response := ⟨[], lines, 1⟩

end Response

/-! ## Texts -/

/-- The lines of the usage. -/
def usageLines : List String := [
  "Pseudocode trace compiler",
  "",
  "Usage: pseudoc <command> [options]",
  "",
  "Commands:",
  "  run <ir.json|->         Execute an IR document and print its action frames",
  "  check <ir.json|->       Parse an IR document without executing it",
  "  test <fixtures.json>    Grade a fixture file",
  "  help                    Show this help message",
  "  version                 Show version information",
  "",
  "Run options:",
  "  --pretty                Indent the output JSON",
  "  --max-iterations=<n>    Per-loop iteration cap (default: 10000)",
  "  --no-limit              Remove the iteration cap",
  "",
  "Test options:",
  "  --verbose, -v           Show passing fixtures too",
  "  --no-parallel           Grade fixtures sequentially",
  "",
  "Environment:",
  "  RUST_LOG=pseudo_eval=debug   Trace compilation on stderr",
  "",
  "Examples:",
  "  pseudoc run program.json",
  "  cat program.json | pseudoc run - --pretty",
  "  pseudoc test fixtures.json --verbose"]

/-- What is said when the file at `path` could not be read. -/
def ReadFault.message (path : String) : ReadFault → String
  | missing => "cannot find file '" ++ path ++ "'"
  | denied => "permission denied reading '" ++ path ++ "'"
  | other reason => "error reading '" ++ path ++ "': " ++ reason

/-- The text in the file at `path`, or what is said when there is none. -/
def Source.text (path : String) : Source → Except String String
  | .error fault => .error (fault.message path)
  | .ok bytes =>
    match String.fromUTF8? bytes with
    | some text => .ok text
    | none => .error ("'" ++ path ++ "' contains invalid UTF-8 data")

/-! ## Documents -/

/-- The document of a fault. -/
def Fault.toJson (cause : Fault) : Json :=
  .object [("error", .object [("kind", .string cause.kind), ("message", .string cause.message)])]

/-- The text of the document of a fault. -/
def Fault.render (pretty : Bool) (cause : Fault) : String :=
  cause.toJson.render pretty

/-- The document that a run prints: that of the trace, or that of the fault. There is none when the
run is not finished. -/
def RunOptions.render (options : RunOptions) (clock : Clock) (text : String) :
    Option (Except String String) :=
  match Program.traceText (.ofLimit options.limit) clock text with
  | .ok trace => some (.ok (trace.render options.pretty))
  | .error (.fault cause) => some (.error (cause.render options.pretty))
  | .error .unfinished => none

/-! ## Summaries -/

/-- The lines for a graded fixture. -/
def Grade.lines (verbose : Bool) (g : Grade) : List Line :=
  match g.verdict with
  | .passed => if verbose then [.timed ("  PASS: " ++ g.name ++ " (") ")"] else []
  | .failed message => [.plain ("  FAIL: " ++ g.name), .plain ("        " ++ message)]

/-- The lines behind the graded fixtures. -/
def Summary.closing (s : Summary) : List Line :=
  if s.total = 0 then [.plain "No fixtures found."]
  else [.plain "",
    .timed ("Fixtures: " ++ toString s.passed ++ " passed, " ++ toString s.failed ++ " failed ("
      ++ toString s.total ++ " total) in ") "",
    .plain "", .plain (if s.failed > 0 then "FAILED" else "OK")]

/-- The response of a summary. -/
def Summary.response (verbose : Bool) (s : Summary) : Response :=
  ⟨s.grades.flatMap (Grade.lines verbose) ++ s.closing, [], s.exitCode⟩

/-! ## Commands -/

namespace Command

/-- Runs the program of a document. -/
def respondRun (options : RunOptions) (clock : Clock) (text : String) : Response :=
  match options.render clock text with
  | some (.ok document) => .success [document]
  | some (.error document) => ⟨[.plain document], [], 1⟩
  | none => .failure ["error: the run was given up"]

/-- Surveys the program of a document. -/
def respondCheck (path text : String) : Response :=
  match Survey.ofText? text with
  | none => .failure ["error: " ++ Program.badDocument.message]
  | some survey =>
    if survey.isClean then
      .success ["OK: " ++ path ++ " (" ++ toString survey.statements ++ " statements, "
        ++ toString survey.nodes ++ " nodes)"]
    else .failure (survey.unsupported.map Survey.complaint)

/-- What is said about a text that is not a file of fixtures. -/
def badFixtures (path reason : String) : String :=
  "error: invalid fixture file '" ++ path ++ "': " ++ reason

/-- Grades the fixtures of a file. -/
def respondTest (workers : Workers) (path : String) (verbose parallel : Bool) (text : String) :
    Response :=
  match Fixture.ofText? text with
  | none => .failure [badFixtures path "this is not the JSON text of a list of fixtures"]
  | some fixtures =>
    (Summary.share workers parallel (.limit defaultLimit) fixtures).response verbose

/-- Passes the text of a file on. -/
def withText (path : String) (source : Source) (respond : String → Response) : Response :=
  match source.text path with
  | .ok text => respond text
  | .error message => .failure [message]

/-- The answer to a command that reads `source` and shares its tasks among workers. -/
def respondBy (workers : Workers) (clock : Clock) (source : Source) : Command → Response
  | usage => .success usageLines
  | version => .success ["pseudoc 0.1.0"]
  | unknown name => ⟨usageLines.map .plain, ["Unknown command: " ++ name, ""], 1⟩
  | refused lines => .failure lines
  | run path options => withText path source (respondRun options clock)
  | check path => withText path source (respondCheck path)
  | test path verbose parallel => withText path source (respondTest workers path verbose parallel)

/-- The answer to a command that reads `source`, where tasks are finished in their order. -/
def respond (clock : Clock) (source : Source) (command : Command) : Response :=
  command.respondBy .inOrder clock source

end Command

end Playback
