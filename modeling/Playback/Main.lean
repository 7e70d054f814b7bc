import Playback.CommandLine.Response
import Std.Time.DateTime.Timestamp

/-!
# The program

Reads the file that the command line asks for, and prints the response.
-/

namespace Playback

/-- An error of the system with its number, which some calls give as a negative number of 32
bits. -/
def systemError (code : UInt32) (details : String) : String :=
  details.capitalize ++ " (os error " ++ toString code.toInt32.toInt.natAbs ++ ")"

/-- Why reading failed. -/
def ReadFault.ofError : IO.Error → ReadFault
  | .noFileOrDirectory .. => .missing
  | .permissionDenied .. => .denied
  | .inappropriateType _ code details | .invalidArgument _ code details =>
    .other (systemError code details)
  | e => .other (toString e)

/-- Reads a file, or the standard input. -/
def readSource (path : String) : IO Source := do
  try
    if path = "-" then
      let stream ← IO.getStdin
      return .ok (← stream.readBinToEnd)
    else return .ok (← IO.FS.readBinFile path)
  catch e => return .error (.ofError e)

/-- A duration with two places, in the unit that suits it. -/
def elapsedText (nanoseconds : Nat) : String :=
  let places (unit : Nat) : String :=
    let hundredths := (nanoseconds * 200 + unit) / (2 * unit)
    (Numeral.mk false hundredths 2 none).text
  if nanoseconds ≥ 1000000000 then places 1000000000 ++ "s"
  else if nanoseconds ≥ 1000000 then places 1000000 ++ "ms"
  else if nanoseconds ≥ 1000 then places 1000 ++ "µs"
  else places 1 ++ "ns"

/-- Answers a command: prints the lines and gives the exit code. -/
def answer (command : Command) : IO UInt32 := do
  let source ← match command.source? with
    | some path => readSource path
    | none => pure (.ok .empty)
  let start ← IO.monoNanosNow
  let now ← Std.Time.Timestamp.now
  let millis := UInt64.ofNat now.toMillisecondsSinceUnixEpoch.toInt.toNat
  let response := command.respond (.wall 0 0 fun _ => millis) source
  let code := UInt32.ofNat response.code
  let elapsed := elapsedText ((← IO.monoNanosNow) - start)
  for line in response.errors do
    IO.eprintln line
  for line in response.output do
    IO.println (line.text elapsed)
  return code

end Playback

/-- The program. -/
def main (arguments : List String) : IO UInt32 :=
  Playback.answer (.ofArguments arguments)
