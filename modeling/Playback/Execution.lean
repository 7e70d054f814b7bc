import Playback.Condition
import Playback.Evaluation
import Playback.Trace.Emitter

/-!
# Execution

Statements run one after another on a machine: they change its store, and its emitter collects what they
do. The frames of a branch or a loop are a block, which opens before the first of them and is closed by a
frame of its own. The frames of a function body go into the frame of its definition, whose line and time
are those before the body. A return ends the function, or else the program, and closes what is open on its
way.

How many rounds a loop may run is said by a `Budget`. With a limit, one round too many is a fault of
the program. With fuel only, it leaves the run unfinished, which says nothing about the program.
-/

namespace Playback

/-- How many rounds each run of a loop may take. -/
inductive Budget where
  /-- More rounds are a fault. -/
  | limit (rounds : Nat)
  /-- More rounds are not run. -/
  | fuel (rounds : Nat)
deriving DecidableEq, Repr

/-- Why a run has no result. -/
inductive Halt where
  | fault (cause : Fault)
  /-- The fuel did not suffice. -/
  | unfinished
deriving DecidableEq, Repr

namespace Budget

/-- The number of rounds. -/
def rounds : Budget → Nat
  | limit n | fuel n => n

/-- What one round too many means, in a loop at `line`. -/
def overrun (line : UInt32) : Budget → Halt
  | limit n => .fault (.tooManyRounds n line)
  | fuel _ => .unfinished

end Budget

/-- How statements end. -/
inductive Flow where
  | next
  /-- A return ran. -/
  | returned
deriving DecidableEq, Repr

/-- A fault halts the run. -/
def haltOn {α : Type} (r : Except Fault α) : Except Halt α :=
  r.mapError .fault

/-! ## Machines -/

/-- What runs change. -/
structure Machine where
  store : Store
  emitter : Emitter

namespace Machine

/-- Nothing has run. -/
def ofClock (clock : Clock) : Machine :=
  ⟨.empty, .ofClock clock⟩

/-- Emits what a statement does. -/
def emit (m : Machine) (line : Option UInt32) (action : Action) : Machine :=
  { m with emitter := m.emitter.emit line action }

/-- Sets a variable. -/
def assign (m : Machine) (line : Option UInt32) (name : String) (value : Value) : Machine :=
  { m with store := m.store.set name value }.emit line (.set name value.type value)

/-- Runs a block, which ends with `action`. -/
def block (m : Machine) (action : Action) (inner : Machine → Except Halt (Flow × Machine)) :
    Except Halt (Flow × Machine) := do
  let (outer, emitter) := m.emitter.openBlock
  let (flow, m) ← inner { m with emitter := emitter }
  .ok (flow, { m with emitter := m.emitter.closeBlock outer action })

end Machine

/-! ## Loops -/

/-- The value of a counter, which must be a number and not merely count as one. -/
def Store.counter (store : Store) (name : String) : Except Fault Float :=
  match store.read name with
  | .error cause => .error cause
  | .ok (.number x) => .ok x
  | .ok v => .error (.badOperand "from_to" (name ++ " = " ++ v.display))

/-- What a loop checks before each round, with the line of the loop. -/
inductive Guard where
  /-- Goes on until the condition holds. -/
  | conditional (line : Option UInt32) (condition : Node)
  /-- Goes on while the counter is at most `last`. -/
  | counting (line : Option UInt32) (counter : String) (last : Node)

namespace Guard

/-- The line of the loop. -/
def line : Guard → Option UInt32
  | conditional line _ => line
  | counting line _ _ => line

/-- The text of the condition to go on. -/
def condition : Guard → String
  | conditional _ condition => condition.negated.text
  | counting _ counter last => Operator.lessEq.applied counter last.text

/-- The condition to go on. -/
def test (store : Store) : Guard → Except Fault Bool
  | conditional _ condition => condition.negated.holds store
  | counting _ counter last => do
    let current ← store.counter counter
    let bound ← last.evaluateNumber store "from_to"
    .ok (decide (current ≤ bound))

end Guard

namespace Machine

/-- What is done behind each run of the body of a loop. -/
def advance (m : Machine) : Guard → Except Fault Machine
  | .conditional .. => .ok m
  | .counting line counter _ => do
    let current ← m.store.counter counter
    .ok (m.assign line counter (.number (current + 1.0)))

/-- Runs the body as long as the condition holds, with `left` rounds to go. -/
def rounds (guard : Guard) (body : Machine → Except Halt (Flow × Machine)) (overrun : UInt32 → Halt)
    (left : Nat) (m : Machine) : Except Halt (Flow × Machine) := do
  let result ← haltOn (guard.test m.store)
  let m := m.emit guard.line (.check guard.condition result)
  if result then
    match left with
    | 0 => .error (overrun (m.emitter.lineOf guard.line))
    | left + 1 =>
      let (flow, m) ← body m
      match flow with
      | .returned => .ok (.returned, m)
      | .next =>
        let m ← haltOn (m.advance guard)
        rounds guard body overrun left m
  else .ok (.next, m)

end Machine

/-! ## Statements -/

/-- What printing a node shows: the value of a variable, or a literal. A name that is not set is
printed as a text. -/
def Node.printed (store : Store) (n : Node) : Except Fault Action :=
  match n with
  | .identifier _ name =>
    match store.get? name with
    | some v => .ok (.print false (some name) v.primitive)
    | none => .ok (.print true none (.text name))
  | n => (n.evaluate store).map fun v => .print true none v.primitive

namespace Node

mutual

/-- Executes a statement. -/
def exec (budget : Budget) : Node → Machine → Except Halt (Flow × Machine)
  | declaration line name value, m => do
    let v ← haltOn (value.evaluate m.store)
    .ok (.next, m.assign line name v)
  | print line value, m => do
    let action ← haltOn (value.printed m.store)
    .ok (.next, m.emit line action)
  | branch line condition consequent alternate, m => do
    let result ← haltOn (condition.holds m.store)
    m.block .endBranch fun m =>
      let m := m.emit line (.check condition.text result)
      if result then execAll budget consequent m
      else
        match alternate with
        | some statements => execAll budget statements m
        | none => .ok (.next, m)
  | loopUntil line condition body, m =>
    let guard := Guard.conditional line condition
    m.block (.endLoop .conditional) fun m =>
      (m.emit line (.loopUntil guard.condition)).rounds guard (fun m => execAll budget body m)
        (fun l => budget.overrun l) budget.rounds
  | loopFromTo line counter first last body, m => do
    let start ← haltOn (first.evaluateNumber m.store "from_to")
    let guard := Guard.counting line counter last
    m.block (.endLoop .counting) fun m =>
      ((m.assign line counter (.number start)).emit line (.loopFromTo guard.condition)).rounds guard
        (fun m => execAll budget body m) (fun l => budget.overrun l) budget.rounds
  | function line name params body, m => do
    let line := m.emitter.lineOf line
    let (time, emitter) := m.emitter.now
    let (outer, emitter) := emitter.beginNested
    -- a return ends the function only
    let (_, m) ← execAll budget body { m with emitter := emitter }
    let (inner, emitter) := m.emitter.endNested outer
    .ok (.next, { m with emitter := emitter.record (.define line time name params inner) })
  | ret line value, m => .ok (.returned, m.emit line (.ret value.text))
  | n, _ => .error (.fault (.unsupported n.kind))

/-- Executes statements one after another, until one returns. -/
def execAll (budget : Budget) : List Node → Machine → Except Halt (Flow × Machine)
  | [], m => .ok (.next, m)
  | n :: ns, m => do
    let (flow, m) ← exec budget n m
    match flow with
    | .returned => .ok (.returned, m)
    | .next => execAll budget ns m

end

end Node

end Playback
