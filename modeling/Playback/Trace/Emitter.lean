import Playback.Trace.Clock
import Playback.Trace.Frame

/-!
# Emitters

An emitter collects the frames of a run in the order in which they are emitted, and gives each its time
and its line. It remembers two lines: that of the last frame of a statement, which stands in for a line
that is missing, and the highest one of the block that was opened last, behind which the frame stands
that closes the block. A block that is closed raises the highest line of the block around it. The frames
of a function body are collected in a list of their own, until they go into the frame of the definition.
-/

namespace Playback

/-- What is collected, and what the next frame depends on. -/
structure Emitter where
  /-- The frames so far, in order. -/
  frames : Array (Frame UInt64)
  clock : Clock
  /-- The line of the last frame that belongs to a statement; frames that close a block do not. -/
  lastLine : UInt32
  /-- The highest line of all frames since the innermost open block began, those that close a block and
  those of function bodies included. -/
  blockHigh : UInt32

namespace Emitter

/-- Nothing is emitted yet. -/
def ofClock (clock : Clock) : Emitter :=
  ⟨#[], clock, 0, 0⟩

/-- The line of a statement, or the last line where it has none. -/
def lineOf (e : Emitter) (line : Option UInt32) : UInt32 :=
  line.getD e.lastLine

/-- Reads the clock. -/
def now (e : Emitter) : UInt64 × Emitter :=
  let (time, clock) := e.clock.now
  (time, { e with clock := clock })

/-- Adds a frame. -/
def push (e : Emitter) (f : Frame UInt64) : Emitter :=
  { e with frames := e.frames.push f, blockHigh := max e.blockHigh f.line }

/-- Adds the frame of a statement. -/
def record (e : Emitter) (f : Frame UInt64) : Emitter :=
  { e with lastLine := f.line }.push f

/-- Emits what a statement does, at its line and at the time of the clock. -/
def emit (e : Emitter) (line : Option UInt32) (action : Action) : Emitter :=
  let (time, e) := e.now
  e.record (.plain (e.lineOf line) time action)

/-- Opens a block. The highest line of the block around it is handed out until the block is closed. -/
def openBlock (e : Emitter) : UInt32 × Emitter :=
  (e.blockHigh, { e with blockHigh := 0 })

/-- Closes a block one line behind its highest line; `outer` is the highest line of the block around
it. -/
def closeBlock (e : Emitter) (outer : UInt32) (action : Action) : Emitter :=
  let (time, e) := e.now
  let line := Frame.lineAfter e.blockHigh
  { e.push (.plain line time action) with blockHigh := max outer line }

/-- Begins a new list of frames. The one before is handed out. -/
def beginNested (e : Emitter) : Array (Frame UInt64) × Emitter :=
  (e.frames, { e with frames := #[] })

/-- Goes back to the list of frames before the last beginning. The frames since then are handed out. -/
def endNested (e : Emitter) (outer : Array (Frame UInt64)) : List (Frame UInt64) × Emitter :=
  (e.frames.toList, { e with frames := outer })

/-- The frames of a whole run. -/
def finish (e : Emitter) : List (Frame UInt64) :=
  e.frames.toList

end Emitter

end Playback
