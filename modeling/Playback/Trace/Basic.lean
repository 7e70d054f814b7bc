import Playback.Json.Printer
import Playback.Trace.Frame

/-!
# Traces

A trace is the list of the frames of a run, with their times. `Trace.toJson` is its document: every
frame is an object of its line, its operation, the fields of its action, its time and its
description.
-/

namespace Playback

/-- The frames of a run. -/
structure Trace where
  frames : List (Frame UInt64)
deriving Inhabited

/-- The fields that an action adds to its frame. -/
def Action.fields : Action → List (String × Json)
  | set name type value =>
    [("varName", .string name), ("type", .string type.name), ("value", value.toJson)]
  | print isLiteral name literal =>
    [("isLiteral", .bool isLiteral), ("varName", Json.textOrNull name),
      ("literal", literal.toJson)]
  | check condition result => [("condition", .string condition), ("result", .bool result)]
  | loopUntil condition | loopFromTo condition => [("condition", .string condition)]
  | ret value => [("value", .string value)]
  | endBranch | endLoop _ => []

namespace Frame

/-- A frame around the fields of its action. -/
def document (line : UInt32) (operation : String) (fields : List (String × Json))
    (time : UInt64) (description : String) : Json :=
  .object ([("line", Json.ofInt line.toNat), ("operation", .string operation)] ++ fields
    ++ [("timestamp", Json.ofInt time.toNat), ("description", .string description)])

mutual

/-- A frame as it stands in a document. -/
def toJson : Frame UInt64 → Json
  | plain line time action =>
    document line action.operation action.fields time action.description
  | define line time name params body =>
    document line (define line time name params body).operation
      [("varName", .string name), ("params", Json.ofTexts params),
        ("body", .array (toJsonsOnto [] body))]
      time (define line time name params body).description

/-- Adds frames to those so far, which are in reverse, and puts all in order. -/
def toJsonsOnto (done : List Json) : List (Frame UInt64) → List Json
  | [] => done.reverse
  | f :: fs => toJsonsOnto (toJson f :: done) fs

end

end Frame

namespace Trace

/-- The number of frames, those inside definitions aside. -/
def size (t : Trace) : Nat := t.frames.length

/-- All that a program prints, in order, in the bodies of functions too. -/
def prints (t : Trace) : List String := Frame.prints t.frames

/-- The document of a trace. -/
def toJson (t : Trace) : Json :=
  .object [("actionFrames", .array (Frame.toJsonsOnto [] t.frames))]

/-- The text of a trace's document. -/
def render (pretty : Bool) (t : Trace) : String :=
  t.toJson.render pretty

end Trace

end Playback
