import Playback.Execution

/-!
# Semantics

What a statement does, said of the statement alone: from a state, which is a store and a last line, it
leaves a state and the frames that it has added. There is no clock, no list of the frames before and no
memory of the highest line. A block is closed behind the highest of all lines in it, and times are added
to the frames of a whole run, each definition before the frames of its body.

That a machine does just this is proved in `Playback.Proofs.Emission`.
-/

namespace Playback

/-! ## Blocks and times -/

namespace Frame

variable {τ : Type}

mutual

/-- The highest line of a frame and of the frames inside it, and at least `least`. -/
def highest (least : UInt32) : Frame τ → UInt32
  | plain line _ _ => max least line
  | define line _ _ _ body => highestOf (max least line) body

/-- The highest line of frames and of the frames inside them, and at least `least`. -/
def highestOf (least : UInt32) : List (Frame τ) → UInt32
  | [] => least
  | f :: fs => highestOf (highest least f) fs

end

/-- A block of frames with the frame that ends it, one line behind the highest line of the block. -/
def closed (frames : List (Frame Unit)) (action : Action) : List (Frame Unit) :=
  frames ++ [plain (lineAfter (highestOf 0 frames)) () action]

variable {σ : Type}

mutual

/-- The frame with its times, and the clock behind it. -/
def stamped (clock : Clock) : Frame σ → Frame UInt64 × Clock
  | plain line _ action =>
    let (time, clock) := clock.now
    (plain line time action, clock)
  | define line _ name params body =>
    let (time, clock) := clock.now
    let (body, clock) := stampedOnto clock [] body
    (define line time name params body, clock)

/-- Adds frames with their times to those so far, which are in reverse. -/
def stampedOnto (clock : Clock) (done : List (Frame UInt64)) :
    List (Frame σ) → List (Frame UInt64) × Clock
  | [] => (done.reverse, clock)
  | f :: fs =>
    let (g, clock) := stamped clock f
    stampedOnto clock (g :: done) fs

end

/-- The frames with their times. -/
def stampAll (clock : Clock) (frames : List (Frame σ)) : List (Frame UInt64) :=
  (stampedOnto clock [] frames).1

end Frame

/-! ## States and runs -/

/-- What a statement depends on. -/
structure State where
  store : Store
  /-- The line of the last frame that belongs to a statement; frames that close a block do not. -/
  lastLine : UInt32
deriving DecidableEq, Inhabited

namespace State

/-- Nothing has run. -/
def initial : State := ⟨.empty, 0⟩

/-- The line of a statement, or the last line where it has none. -/
def lineOf (s : State) (line : Option UInt32) : UInt32 :=
  line.getD s.lastLine

/-- The state behind a frame of a statement. -/
def passed (s : State) (line : Option UInt32) : State :=
  { s with lastLine := s.lineOf line }

/-- The frame of a statement. -/
def frame (s : State) (line : Option UInt32) (action : Action) : Frame Unit :=
  .plain (s.lineOf line) () action

end State

/-- What statements leave behind. -/
structure Run where
  frames : List (Frame Unit)
  flow : Flow
  state : State

/-- The run that does nothing. -/
def State.idle (s : State) : Run :=
  ⟨[], .next, s⟩

/-- The run of one frame. -/
def State.step (s : State) (line : Option UInt32) (action : Action) (flow : Flow) : Run :=
  ⟨[s.frame line action], flow, s.passed line⟩

/-- Sets a variable. -/
def State.assign (s : State) (line : Option UInt32) (name : String) (value : Value) : Run :=
  { s with store := s.store.set name value }.step line (.set name value.type value) .next

/-! ## Loops -/

/-- A loop without its body. -/
structure Loop where
  line : Option UInt32
  /-- The text of the condition to go on. -/
  condition : String
  /-- The condition to go on. -/
  test : Store → Except Fault Bool
  /-- What is done behind each run of the body. -/
  advance : State → Except Fault Run

/-- Runs the body as long as the condition holds, with `left` rounds to go and the frames so far in
reverse. -/
def Loop.rounds (loop : Loop) (body : State → Except Halt Run) (overrun : UInt32 → Halt)
    (left : Nat) (done : List (Frame Unit)) (s : State) : Except Halt Run := do
  let result ← haltOn (loop.test s.store)
  let done := s.frame loop.line (.check loop.condition result) :: done
  let s := s.passed loop.line
  if result then
    match left with
    | 0 => .error (overrun s.lastLine)
    | left + 1 =>
      let round ← body s
      let done := round.frames.reverseAux done
      match round.flow with
      | .returned => .ok ⟨done.reverse, .returned, round.state⟩
      | .next =>
        let step ← haltOn (loop.advance round.state)
        loop.rounds body overrun left (step.frames.reverseAux done) step.state
  else .ok ⟨done.reverse, .next, s⟩

/-- The loop with this guard. -/
def Guard.loop (guard : Guard) : Loop where
  line := guard.line
  condition := guard.condition
  test store := guard.test store
  advance s :=
    match guard with
    | conditional .. => .ok s.idle
    | counting line counter _ => do
      let current ← s.store.counter counter
      .ok (s.assign line counter (.number (current + 1.0)))

/-! ## Statements -/

namespace Node

mutual

/-- Runs a statement. -/
def run (budget : Budget) : Node → State → Except Halt Run
  | declaration line name value, s => do
    let v ← haltOn (value.evaluate s.store)
    .ok (s.assign line name v)
  | print line value, s => do
    let action ← haltOn (value.printed s.store)
    .ok (s.step line action .next)
  | branch line condition consequent alternate, s => do
    let result ← haltOn (condition.holds s.store)
    let head := s.frame line (.check condition.text result)
    let inner ←
      if result then runAll budget consequent (s.passed line)
      else
        match alternate with
        | some statements => runAll budget statements (s.passed line)
        | none => .ok (s.passed line).idle
    .ok { inner with frames := Frame.closed (head :: inner.frames) .endBranch }
  | loopUntil line condition body, s => do
    let loop := (Guard.conditional line condition).loop
    let head := s.frame line (.loopUntil loop.condition)
    let inner ← loop.rounds (fun s => runAll budget body s) (fun l => budget.overrun l)
      budget.rounds [head] (s.passed line)
    .ok { inner with frames := Frame.closed inner.frames (.endLoop .conditional) }
  | loopFromTo line counter first last body, s => do
    let start ← haltOn (first.evaluateNumber s.store "from_to")
    let loop := (Guard.counting line counter last).loop
    let set := s.assign line counter (.number start)
    let head := set.state.frame line (.loopFromTo loop.condition)
    let inner ← loop.rounds (fun s => runAll budget body s) (fun l => budget.overrun l)
      budget.rounds (head :: set.frames.reverse) (set.state.passed line)
    .ok { inner with frames := Frame.closed inner.frames (.endLoop .counting) }
  | function line name params body, s => do
    let inner ← runAll budget body s
    .ok ⟨[.define (s.lineOf line) () name params inner.frames], .next,
      inner.state.passed (some (s.lineOf line))⟩
  | ret line value, s => .ok (s.step line (.ret value.text) .returned)
  | n, _ => .error (.fault (.unsupported n.kind))

/-- Runs statements one after another, until one returns. -/
def runAll (budget : Budget) : List Node → State → Except Halt Run
  | [], s => .ok s.idle
  | n :: ns, s => do
    let first ← run budget n s
    match first.flow with
    | .returned => .ok first
    | .next =>
      let rest ← runAll budget ns first.state
      .ok { rest with frames := first.frames ++ rest.frames }

end

end Node

end Playback
