import Playback.CommandLine.Path
import Playback.Compilation

/-!
# Arguments

What the arguments of the command line ask for. The options of a run may stand before and after the
path; a lone minus sign is the path of the standard input.
-/

namespace Playback

/-- How a program is run. -/
structure RunOptions where
  /-- The document is indented. -/
  pretty : Bool
  /-- The most rounds of a loop, or none for no limit. -/
  limit : Option Nat
deriving DecidableEq, Repr

/-- The options where none is given. -/
def RunOptions.default : RunOptions := ⟨false, some defaultLimit⟩

/-- What is wrong with the arguments of a run. -/
inductive ArgumentFault where
  | badLimit (value : String)
  | unknownOption (argument : String)
deriving DecidableEq, Repr

/-- The message for wrong arguments. -/
def ArgumentFault.message : ArgumentFault → String
  | badLimit value => "invalid iteration limit '" ++ value ++ "'"
  | unknownOption argument => "unknown option '" ++ argument ++ "'"

/-- A limit is a number of 64 bits in digits, with or without a plus sign. -/
def limit? (cs : List Char) : Option Nat :=
  let ds := match cs with
    | '+' :: ds => ds
    | ds => ds
  if ds ≠ [] ∧ ds.all Char.isDigit ∧ Nat.ofDigitChars 10 ds 0 < UInt64.size then
    some (Nat.ofDigitChars 10 ds 0)
  else none

/-- What follows `start` in `cs`. -/
def behind? (start cs : List Char) : Option (List Char) :=
  if start.isPrefixOf cs then some (cs.drop start.length) else none

/-- Takes the next argument of a run in. The sign for the standard input replaces a path before it,
any other path may come only once. -/
def RunOptions.take (path : Option String) (options : RunOptions) (argument : String) :
    Except ArgumentFault (Option String × RunOptions) :=
  if argument = "--pretty" then .ok (path, { options with pretty := true })
  else if argument = "--no-limit" then .ok (path, { options with limit := none })
  else
    match behind? "--max-iterations=".toList argument.toList with
    | some value =>
      match limit? value with
      | some n => .ok (path, { options with limit := some n })
      | none => .error (.badLimit (String.ofList value))
    | none =>
      if argument = "-" ∨ (argument.toList.head? ≠ some '-' ∧ path = none) then
        .ok (some argument, options)
      else .error (.unknownOption argument)

/-- Takes the arguments of a run in, one after another. -/
def RunOptions.takeAll (path : Option String) (options : RunOptions) :
    List String → Except ArgumentFault (Option String × RunOptions)
  | [] => .ok (path, options)
  | a :: rest =>
    match take path options a with
    | .error fault => .error fault
    | .ok (path, options) => takeAll path options rest

/-- The path, if there is one, and the options of a run. -/
def RunOptions.ofArguments (arguments : List String) :
    Except ArgumentFault (Option String × RunOptions) :=
  takeAll none .default arguments

/-! ## Commands -/

/-- What a command line asks for. -/
inductive Command where
  | usage
  | version
  /-- The first argument is no command. -/
  | unknown (name : String)
  /-- The arguments do not fit the command; the lines say why. -/
  | refused (lines : List String)
  | run (path : String) (options : RunOptions)
  | check (path : String)
  | test (path : String) (verbose parallel : Bool)
deriving DecidableEq, Repr

namespace Command

/-- The command with the arguments of a run. -/
def ofRun (arguments : List String) : Command :=
  match RunOptions.ofArguments arguments with
  | .error fault => refused ["error: " ++ fault.message]
  | .ok (some path, options) => run path options
  | .ok (none, _) =>
    refused ["error: missing IR file path",
      "Usage: pseudoc run <ir.json|-> [--pretty] [--max-iterations=N|--no-limit]"]

/-- The command with the arguments of a test. Passing fixtures are shown when it is verbose, and
workers grade the fixtures unless this is forbidden; the first argument that is no option is the path,
and options that are not known are ignored. -/
def ofTest (arguments : List String) : Command :=
  match arguments.find? (fun a => a.toList.head? ≠ some '-') with
  | some path =>
    test path (arguments.any fun a => a = "--verbose" || a = "-v")
      (!arguments.contains "--no-parallel")
  | none => refused ["Usage: pseudoc test <fixtures.json> [--no-parallel] [--verbose]"]

/-- The command of a command line. The path of a document alone asks for a run. -/
def ofArguments : List String → Command
  | [] => usage
  | name :: rest =>
    match name with
    | "run" => ofRun rest
    | "check" =>
      match rest with
      | [] => refused ["Usage: pseudoc check <ir.json|->"]
      | path :: _ => check path
    | "test" => ofTest rest
    | "help" | "--help" | "-h" => usage
    | "version" | "--version" | "-V" => version
    | _ => if Path.isJson name then run name .default else unknown name

/-- The path of the file that a command reads. -/
def source? : Command → Option String
  | run path _ | check path | test path _ _ => some path
  | _ => none

end Command

end Playback
