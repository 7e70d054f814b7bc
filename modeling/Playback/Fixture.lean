import Playback.Compilation
import Playback.Text.Quoted
import Playback.Text.Search
import Playback.Workers

/-!
# Fixtures

A fixture is a program together with what it is expected to print, or with the fault it is expected
to meet. A file of fixtures is a list of objects, or of lists that hold the fields in their order.
Each fixture is graded on its own, one after another or by several workers, and a summary holds one
verdict for each.
-/

namespace Playback

/-- A program and what is expected of it. -/
structure Fixture where
  name : String
  program : Program
  /-- What the program prints, when no fault is expected. -/
  expectedOutput : List String
  /-- The kind of the expected fault, or a part of its message. -/
  expectedError : Option String
deriving Inhabited

namespace Fixture

/-! ## Reading -/

/-- A text, given as it is spelled. -/
def text? : RawJson → Option String
  | .string ps => RawJson.decodeText? ps
  | _ => none

/-- A list of texts, given as they are spelled. -/
def texts? : RawJson → Option (List String)
  | .array vs => vs.mapM text?
  | _ => none

/-- A text, or nothing for `null`. -/
def textOrNull? : RawJson → Option (Option String)
  | .null => some none
  | v => (text? v).map some

/-- The reading of a field that may be given once, or not at all. -/
def once? {α : Type} (read : RawJson → Option α) (absent : Option α) : List RawJson → Option α
  | [] => absent
  | [v] => read v
  | _ => none

/-- A fixture in which `depth` containers may stand inside one another. -/
def ofRaw? (depth : Nat) : RawJson → Option Fixture
  | .object fs => do
    let fields ← RawJson.namedFields? fs
    let name ← once? text? none (RawJson.named "name" fields)
    let program ← once? (Program.ofRaw? (depth - 1)) none (RawJson.named "program" fields)
    let output ← once? texts? (some []) (RawJson.named "expectedOutput" fields)
    let error ← once? textOrNull? (some none) (RawJson.named "expectedError" fields)
    some ⟨name, program, output, error⟩
  | .array (name :: program :: rest) => do
    let name ← text? name
    let program ← Program.ofRaw? (depth - 1) program
    match rest with
    | [] => some ⟨name, program, [], none⟩
    | [output] => some ⟨name, program, ← texts? output, none⟩
    | [output, error] => some ⟨name, program, ← texts? output, ← textOrNull? error⟩
    | _ => none
  | _ => none

/-- The fixtures that a file holds. -/
def ofText? (text : String) : Option (List Fixture) :=
  match RawJson.ofText? text with
  | some (.array vs) => vs.mapM (ofRaw? (RawJson.depthLimit - 1))
  | _ => none

end Fixture

/-! ## Grading -/

/-- The fault is of the kind `expected`, or its message contains this text. -/
def Fault.isExpected (cause : Fault) (expected : String) : Bool :=
  cause.kind == expected || Text.occurs expected.toList cause.message.toList

/-- Whether a fixture is met, and what is wrong when it is not. -/
inductive Verdict where
  | passed
  | failed (message : String)
deriving DecidableEq, Repr

namespace Verdict

/-- The fixture is met. -/
def isPassed : Verdict → Bool
  | passed => true
  | failed _ => false

/-- The verdict on a program that ran to its end and printed `output`. -/
def onOutput (f : Fixture) (output : List String) : Verdict :=
  match f.expectedError with
  | none =>
    if output = f.expectedOutput then passed
    else failed ("expected output " ++ Text.quotedList f.expectedOutput ++ ", got "
      ++ Text.quotedList output)
  | some expected =>
    failed ("expected error '" ++ expected ++ "', but the program ran to completion")

/-- The verdict on a program that met a fault. -/
def onFault (f : Fixture) (cause : Fault) : Verdict :=
  match f.expectedError with
  | none => failed (cause.kind ++ ": " ++ cause.message)
  | some expected =>
    if cause.isExpected expected then passed
    else failed ("expected error '" ++ expected ++ "', got '" ++ cause.message ++ "'")

end Verdict

/-- Runs the program of a fixture and compares. Times are not looked at. -/
def Fixture.grade (budget : Budget) (f : Fixture) : Verdict :=
  match f.program.trace budget (.steps 0 0) with
  | .ok trace => .onOutput f trace.prints
  | .error (.fault cause) => .onFault f cause
  | .error .unfinished => .failed "unfinished"

/-- A fixture's name and the verdict on it. -/
structure Grade where
  name : String
  verdict : Verdict
deriving DecidableEq, Repr

/-- The grade of a fixture. -/
def Grade.ofFixture (budget : Budget) (f : Fixture) : Grade :=
  ⟨f.name, f.grade budget⟩

/-- The grades of fixtures, in their order. -/
structure Summary where
  grades : List Grade
deriving DecidableEq, Repr

namespace Summary

/-- Grades each fixture on its own. -/
def ofFixtures (budget : Budget) (fixtures : List Fixture) : Summary :=
  ⟨fixtures.map (.ofFixture budget)⟩

/-- Grades several fixtures by workers, when this is asked for. A single fixture is not shared. -/
def share (workers : Workers) (parallel : Bool) (budget : Budget) (fixtures : List Fixture) :
    Summary :=
  if parallel ∧ fixtures.length > 1 then ⟨workers.map (.ofFixture budget) fixtures⟩
  else ofFixtures budget fixtures

/-- How many fixtures are met. -/
def passed (s : Summary) : Nat :=
  s.grades.countP (·.verdict.isPassed)

/-- How many are not. -/
def failed (s : Summary) : Nat :=
  s.grades.countP (!·.verdict.isPassed)

/-- How many there are. -/
def total (s : Summary) : Nat :=
  s.passed + s.failed

/-- The exit code is 1 when a fixture is not met. -/
def exitCode (s : Summary) : Nat :=
  if s.failed > 0 then 1 else 0

end Summary

end Playback
