import Playback.Document
import Playback.Execution
import Playback.Trace.Basic
import Playback.Trace.Clock

/-!
# Compilation

From a program, or from the text of its document, to its trace. A program has a whole trace or
none: when it meets a fault, no frame is kept.
-/

namespace Playback

/-- The rounds of a loop that no limit is set for. No run comes near it. -/
def patience : Nat := 1000000000000000000

/-- The limit where nothing else is said. -/
def defaultLimit : Nat := 10000

/-- The budget for a limit on the rounds of a loop, or for none. -/
def Budget.ofLimit : Option Nat → Budget
  | some n => .limit n
  | none => .fuel patience

namespace Program

/-- The trace of a program. -/
def trace (budget : Budget) (clock : Clock) (p : Program) : Except Halt Trace := do
  let (_, m) ← Node.execAll budget p.statements (.ofClock clock)
  .ok ⟨m.emitter.finish⟩

/-- What is said about a text that is not a program document. -/
def badDocument : Fault :=
  .badDocument "this is not the JSON text of a program"

/-- The trace of the program that the text of a document writes. -/
def traceText (budget : Budget) (clock : Clock) (text : String) : Except Halt Trace :=
  match ofText? text with
  | some p => p.trace budget clock
  | none => .error (.fault badDocument)

end Program

end Playback
