import Playback.Compilation
import Playback.Proofs.Forest
import Playback.Proofs.Rules

/-!
# Emission

A machine does what the semantics says. `Emitter.behind` is the emitter behind the frames of a run: they
stand behind those before, each with the reading of the clock that was taken for it, and the running mark
is the highest line of the block so far. Each operation of the emitter keeps this form: a frame of a
statement adds to it, a block that is opened and closed gives `Frame.closed`, and the list of a function
body gives a definition whose time was read before those of its body.

Main statements: executing code on a machine is running it from the state of the machine
(`Code.exec_eq`), and so the trace of a program has the frames of its run, with the times of the clock
(`Program.trace_eq`).
-/

namespace Playback

/-! ## Highest lines -/

namespace Frame

variable {τ : Type}

lemma max_assoc (a b c : UInt32) : max (max a b) c = max a (max b c) := by
  rw [← UInt32.toNat_inj]
  simp only [toNat_max, Nat.max_assoc]

lemma max_comm (a b : UInt32) : max a b = max b a := by
  rw [← UInt32.toNat_inj]
  simp only [toNat_max, Nat.max_comm]

lemma highestOf_append (least : UInt32) (fs gs : List (Frame τ)) :
    highestOf least (fs ++ gs) = highestOf (highestOf least fs) gs := by
  rw [highestOf_eq_foldl, highestOf_eq_foldl, highestOf_eq_foldl, ← List.foldl_append, linesOf,
    flatOf_append, List.map_append]
  rfl

/-- A mark before the frames is a lower bound, no matter when it is looked at. -/
lemma highestOf_max (a b : UInt32) (fs : List (Frame τ)) :
    highestOf (max a b) fs = max a (highestOf b fs) := by
  rw [highestOf_eq_foldl, highestOf_eq_foldl]
  induction linesOf fs generalizing b with
  | nil => rfl
  | cons l ls ih => rw [List.foldl_cons, List.foldl_cons, max_assoc, ih]

lemma max_zero (a : UInt32) : max a 0 = a := by
  rw [← UInt32.toNat_inj, toNat_max]
  exact Nat.max_zero _

/-- The highest line of a block and of what is before it. -/
lemma highestOf_eq_max (least : UInt32) (fs : List (Frame τ)) :
    highestOf least fs = max least (highestOf 0 fs) := by
  rw [← highestOf_max, max_zero]

/-- The frame that closes a block is the highest one in it. -/
lemma highestOf_closed (least : UInt32) (fs : List (Frame Unit)) (action : Action) :
    highestOf least (closed fs action) = max least (lineAfter (highestOf 0 fs)) := by
  have behind : max (highestOf 0 fs) (lineAfter (highestOf 0 fs)) = lineAfter (highestOf 0 fs) := by
    have bound := (highestOf 0 fs).toNat_lt
    have size : UInt32.size = 4294967296 := rfl
    rw [← UInt32.toNat_inj, toNat_max, toNat_lineAfter]
    omega
  rw [closed, highestOf_append, highestOf_eq_max least fs]
  show max (max least (highestOf 0 fs)) (lineAfter (highestOf 0 fs)) = _
  rw [max_assoc, behind]

lemma clockBehind_append (clock : Clock) (fs gs : List (Frame τ)) :
    clockBehind clock (fs ++ gs) = clockBehind (clockBehind clock fs) gs := by
  induction fs generalizing clock with
  | nil => rfl
  | cons f fs ih => rw [List.cons_append, clockBehind_cons, clockBehind_cons, ih]

end Frame

/-! ## Emitters -/

namespace Emitter

open Playback.Frame (closed stampAll clockBehind highestOf)

/-- The emitter behind frames, where `lastLine` is the line of the last one of a statement. -/
def behind (e : Emitter) (fs : List (Frame Unit)) (lastLine : UInt32) : Emitter where
  frames := e.frames ++ (stampAll e.clock fs).toArray
  clock := clockBehind e.clock fs
  lastLine := lastLine
  blockHigh := highestOf e.blockHigh fs

variable (e : Emitter) (line : Option UInt32) (action : Action) (fs gs : List (Frame Unit))
  (l l' : UInt32)

lemma behind_nil : e.behind [] e.lastLine = e := by
  rw [behind, Frame.stampAll_nil, Array.append_empty]
  rfl

lemma behind_append : (e.behind fs l).behind gs l' = e.behind (fs ++ gs) l' := by
  simp only [behind, Frame.stampAll_append, Frame.clockBehind_append, Frame.highestOf_append,
    Array.append_assoc, List.append_toArray]

/-- A frame of a statement. -/
lemma emit_eq : e.emit line action =
    e.behind [.plain (e.lineOf line) () action] (e.lineOf line) := by
  rw [behind, Frame.stampAll_plain, Frame.stampAll_nil, ← Array.push_eq_append]
  rfl

/-- A block: the frame that closes it stands behind the highest of its lines. -/
lemma closeBlock_eq : (e.openBlock.2.behind fs l).closeBlock e.openBlock.1 action =
    e.behind (closed fs action) l := by
  have mark := Frame.highestOf_closed e.blockHigh fs action
  unfold behind
  rw [mark, closed, Frame.stampAll_append, Frame.stampAll_plain, Frame.stampAll_nil,
    ← List.append_toArray, ← Array.append_assoc, ← Array.push_eq_append, Frame.clockBehind_append]
  rfl

/-- The frames of a function body go into that of its definition, whose time is read before theirs. -/
lemma record_define (name : String) (params : List String) :
    let begun := e.now.2.beginNested
    let ended := (begun.2.behind fs l').endNested begun.1
    ended.2.record (.define l e.now.1 name params ended.1) = e.behind [.define l () name params fs] l := by
  have mark : highestOf e.blockHigh [.define l () name params fs] = max (highestOf e.blockHigh fs) l := by
    show highestOf (max e.blockHigh l) fs = _
    rw [Frame.max_comm, Frame.highestOf_max, Frame.max_comm]
  intro begun ended
  have inner : ended.1 = stampAll e.now.2.clock fs := by
    show (#[] ++ (stampAll e.now.2.clock fs).toArray).toList = _
    rw [Array.empty_append]
  unfold behind
  rw [mark, Frame.stampAll_define, Frame.stampAll_nil, ← Array.push_eq_append,
    Frame.clockBehind_define, inner]
  rfl

end Emitter

/-! ## Machines -/

namespace Machine

/-- What the next statement depends on. -/
def state (m : Machine) : State :=
  ⟨m.store, m.emitter.lastLine⟩

/-- The machine behind a run. -/
def behind (m : Machine) (r : Run) : Machine :=
  ⟨r.state.store, m.emitter.behind r.frames r.state.lastLine⟩

/-- What a machine gives where the semantics gives `x`. -/
def follow (m : Machine) (x : Except Halt Run) : Except Halt (Flow × Machine) :=
  x.map fun r => (r.flow, m.behind r)

variable {m : Machine}

lemma state_behind (r : Run) : (m.behind r).state = r.state := rfl

lemma behind_idle : m.behind m.state.idle = m := by
  obtain ⟨store, emitter⟩ := m
  exact congrArg (Machine.mk store) emitter.behind_nil

lemma behind_after (first rest : Run) :
    (m.behind first).behind rest = m.behind (rest.after first.frames) :=
  congrArg (Machine.mk rest.state.store) (Emitter.behind_append ..)

lemma emit_eq (line : Option UInt32) (action : Action) (flow : Flow) :
    m.emit line action = m.behind (m.state.step line action flow) :=
  congrArg (Machine.mk m.store) (Emitter.emit_eq ..)

lemma assign_eq (line : Option UInt32) (name : String) (value : Value) :
    m.assign line name value = m.behind (m.state.assign line name value) :=
  congrArg (Machine.mk (m.store.set name value)) (Emitter.emit_eq ..)

/-- Code behind a run goes on from the state that the run has left. -/
lemma follow_behind (first : Run) (x : Except Halt Run) :
    (m.behind first).follow x = m.follow (x.map (Run.after first.frames)) := by
  cases x with
  | error halt => rfl
  | ok r => exact congrArg (fun m => Except.ok (r.flow, m)) (behind_after first r)

/-- A step that may meet a fault. -/
lemma bind_haltOn {α : Type} {x : Except Fault α} {g : α → Except Halt (Flow × Machine)}
    {f : α → Except Halt Run} (h : ∀ a, g a = m.follow (f a)) :
    haltOn x >>= g = m.follow (haltOn x >>= f) := by
  cases x with
  | error cause => rfl
  | ok a => exact h a

/-- Code inside other code. -/
lemma follow_bind {m' : Machine} {x : Except Halt Run} {g : Flow × Machine → Except Halt (Flow × Machine)}
    {f : Run → Except Halt Run} (h : ∀ r, g (r.flow, m.behind r) = m'.follow (f r)) :
    m.follow x >>= g = m'.follow (x >>= f) := by
  cases x with
  | error halt => rfl
  | ok r => exact h r

/-- A block is opened and closed around what is inside it. -/
lemma block_eq (m : Machine) (action : Action) {inner : Machine → Except Halt (Flow × Machine)}
    (x : Except Halt Run) (h : ∀ m' : Machine, m'.state = m.state → inner m' = m'.follow x) :
    m.block action inner = m.follow (x.map (Run.closed action)) := by
  rw [block]
  show inner ⟨m.store, m.emitter.openBlock.2⟩ >>= _ = _
  rw [h ⟨m.store, m.emitter.openBlock.2⟩ rfl]
  cases x with
  | error halt => rfl
  | ok r =>
    exact congrArg (fun emitter => Except.ok (r.flow, Machine.mk r.state.store emitter))
      (m.emitter.closeBlock_eq action r.frames r.state.lastLine)

/-- What is done behind a round. -/
lemma advance_eq (guard : Guard) : m.advance guard = (guard.loop.advance m.state).map m.behind := by
  cases guard with
  | conditional line condition => exact congrArg Except.ok behind_idle.symm
  | counting line counter last =>
    show (m.store.counter counter >>= _) = Except.map _ (m.store.counter counter >>= _)
    cases m.store.counter counter with
    | error cause => rfl
    | ok x => exact congrArg Except.ok (assign_eq ..)

end Machine

namespace Code

/-- What executing the code on a machine gives. -/
def exec (budget : Budget) : Code → Machine → Except Halt (Flow × Machine)
  | statement n, m => n.exec budget m
  | block ns, m => Node.execAll budget ns m
  | rounds guard body left, m => m.rounds guard (Node.execAll budget body) budget.overrun left

/-- Executing the code on any machine is running it from the state of the machine. -/
def Emits (budget : Budget) (code : Code) : Prop :=
  ∀ m : Machine, code.exec budget m = m.follow (code.run budget m.state)

namespace Emits

variable {budget : Budget} {code : Code} {body : List Node} {guard : Guard} {m : Machine}

open Machine (bind_haltOn follow_bind)

/-- Code behind a run. -/
lemma behind (h : code.Emits budget) (first : Run) : code.exec budget (m.behind first) =
    m.follow ((code.run budget first.state).map (Run.after first.frames)) := by
  rw [h, Machine.follow_behind, Machine.state_behind]

/-- The machine behind the check before a round. -/
lemma check (result : Bool) : m.emit guard.line (.check guard.condition result) =
    m.behind ⟨[guard.check m.state result], .next, m.state.passed guard.loop.line⟩ :=
  m.emit_eq guard.line (.check guard.condition result) .next

/-- A line that has been passed is still the line of the loop. -/
lemma lineOf_check (frames : List (Frame Unit)) (flow : Flow) :
    (m.behind ⟨frames, flow, m.state.passed guard.loop.line⟩).emitter.lineOf guard.line =
      (m.state.passed guard.loop.line).lastLine := by
  show guard.line.getD (guard.line.getD m.emitter.lastLine) = guard.line.getD m.emitter.lastLine
  cases guard.line <;> rfl

lemma rounds (h : (block body).Emits budget) : ∀ left, (rounds guard body left).Emits budget
  | 0, m => by
    rw [run_rounds_zero, exec, Machine.rounds]
    refine bind_haltOn fun result => ?_
    rw [check]
    cases result with
    | false => rfl
    | true => exact congrArg (fun l => Except.error (budget.overrun l)) (lineOf_check ..)
  | left + 1, m => by
    rw [run_rounds_succ, exec, Machine.rounds]
    refine bind_haltOn fun result => ?_
    rw [check]
    cases result with
    | false => rfl
    | true =>
      show (block body).exec budget _ >>= _ = _
      rw [h]
      refine follow_bind fun ⟨frames, flow, state⟩ => ?_
      rw [Machine.behind_after]
      cases flow with
      | returned => rfl
      | next =>
        show haltOn (Machine.advance _ guard) >>= _ = m.follow (haltOn (guard.loop.advance state) >>= _)
        rw [Machine.advance_eq, Machine.state_behind, Run.after_state]
        cases guard.loop.advance state with
        | error cause => rfl
        | ok step =>
          show (Code.rounds guard body left).exec budget _ =
            m.follow ((Code.rounds guard body left).run budget step.state >>= _)
          rw [Machine.behind_after, (rounds h left).behind, Run.after_state]
          cases (Code.rounds guard body left).run budget step.state <;> rfl

/-- Code in a block, behind the frames that open it. -/
lemma block (h : code.Emits budget) (first : State → Run) (action : Action)
    {inner : Machine → Except Halt (Flow × Machine)}
    (opens : ∀ m : Machine, inner m = code.exec budget (m.behind (first m.state))) :
    m.block action inner = m.follow (do
      let r ← code.run budget (first m.state).state
      .ok ((r.after (first m.state).frames).closed action)) := by
  rw [m.block_eq action ((code.run budget (first m.state).state).map (Run.after (first m.state).frames))]
  · cases code.run budget (first m.state).state <;> rfl
  · intro m' same
    rw [opens, same, h.behind]

lemma branch {line : Option UInt32} {condition : Node} {consequent : List Node}
    {alternate : Option (List Node)}
    (h : ∀ result, (Code.block (Node.chosen result consequent alternate)).Emits budget) :
    (statement (.branch line condition consequent alternate)).Emits budget := by
  intro m
  rw [run_branch, exec, Node.exec]
  refine bind_haltOn fun result => ?_
  refine (h result).block (fun s => s.step line (.check condition.text result) .next) .endBranch ?_
  intro m
  rw [← m.emit_eq]
  cases result with
  | true => rfl
  | false => cases alternate <;> rfl

end Emits

end Code

namespace Node

open Code (Emits)

variable {budget : Budget}

mutual

/-- Executing a statement is running it. -/
lemma emits : ∀ n : Node, Emits budget (.statement n)
  | declaration line name value, m => by
    rw [Code.run_declaration, Code.exec, exec]
    refine Machine.bind_haltOn fun v => ?_
    rw [m.assign_eq]
    rfl
  | print line value, m => by
    rw [Code.run_print, Code.exec, exec]
    refine Machine.bind_haltOn fun action => ?_
    rw [m.emit_eq line action .next]
    rfl
  -- the recursion is on the statements as they are written, so a missing part has its own case
  | branch line condition consequent none, m => by
    refine Emits.branch (fun result => ?_) m
    cases result with
    | true => exact emitsAll consequent
    | false => exact emitsAll []
  | branch line condition consequent (some alternate), m => by
    refine Emits.branch (fun result => ?_) m
    cases result with
    | true => exact emitsAll consequent
    | false => exact emitsAll alternate
  | loopUntil line condition body, m => by
    rw [Code.run_loopUntil, Code.exec, exec]
    refine (Emits.rounds (emitsAll body) _).block
      (fun s => s.step line (.loopUntil condition.negated.text) .next) (.endLoop .conditional) ?_
    intro m
    rw [← m.emit_eq]
    rfl
  | loopFromTo line counter first last body, m => by
    rw [Code.run_loopFromTo, Code.exec, exec]
    refine Machine.bind_haltOn fun x => ?_
    let header : Action := .loopFromTo (Operator.lessEq.applied counter last.text)
    refine (Emits.rounds (emitsAll body) _).block
      (fun s => let set := s.assign line counter (.number x)
        (set.state.step line header .next).after set.frames) (.endLoop .counting) ?_
    intro m
    rw [m.assign_eq, Machine.emit_eq _ _ .next, ← Machine.behind_after]
    rfl
  | function line name params body, m => by
    rw [Code.run_function, Code.exec, exec]
    show (Code.block body).exec budget ⟨m.store, m.emitter.now.2.beginNested.2⟩ >>= _ = _
    rw [emitsAll body]
    refine Machine.follow_bind fun ⟨frames, flow, state⟩ => ?_
    exact congrArg (fun emitter => Except.ok (Flow.next, Machine.mk state.store emitter))
      (m.emitter.record_define frames (m.emitter.lineOf line) state.lastLine name params)
  | ret line value, m => by
    rw [Code.run_ret, Code.exec, exec, m.emit_eq line (.ret value.text) .returned]
    rfl
  | expression .., m => rfl
  | identifier .., m => rfl
  | number .., m => rfl
  | string .., m => rfl
  | boolean .., m => rfl
  | length .., m => rfl
  | substring .., m => rfl
  | unsupported .., m => rfl

/-- Executing statements is running them. -/
lemma emitsAll : ∀ ns : List Node, Emits budget (.block ns)
  | [], m => by
    rw [Code.run_nil, Code.exec, execAll]
    exact congrArg (fun m => Except.ok (Flow.next, m)) Machine.behind_idle.symm
  | n :: ns, m => by
    rw [Code.run_cons, Code.exec, execAll]
    show (Code.statement n).exec budget m >>= _ = _
    rw [emits n]
    refine Machine.follow_bind fun ⟨frames, flow, state⟩ => ?_
    cases flow with
    | returned => rfl
    | next =>
      show (Code.block ns).exec budget _ = m.follow ((Code.block ns).run budget state >>= _)
      rw [emitsAll ns, Machine.follow_behind, Machine.state_behind]
      cases (Code.block ns).run budget state <;> rfl

end

end Node

/-- Executing code on a machine is running it from the state of the machine. -/
theorem Code.exec_eq (budget : Budget) (code : Code) (m : Machine) :
    code.exec budget m = m.follow (code.run budget m.state) := by
  cases code with
  | statement n => exact n.emits m
  | block ns => exact Node.emitsAll ns m
  | rounds guard body left => exact Emits.rounds (Node.emitsAll body) left m

/-- A machine that executes code adds the frames of its run. -/
lemma Code.exec_of_run {budget : Budget} {code : Code} {s : State} {r : Run}
    (h : code.run budget s = .ok r) {m : Machine} (here : m.state = s) :
    code.exec budget m = .ok (r.flow, m.behind r) := by
  rw [exec_eq, here, h]
  rfl

lemma Node.execAll_eq (budget : Budget) (ns : List Node) (m : Machine) :
    execAll budget ns m = m.follow ((Code.block ns).run budget m.state) :=
  Code.exec_eq budget (.block ns) m

/-- The trace of a program has the frames of its run, with the times of the clock. -/
theorem Program.trace_eq (budget : Budget) (clock : Clock) (p : Program) :
    p.trace budget clock = (do
      let r ← (Code.block p.statements).run budget .initial
      .ok ⟨Frame.stampAll clock r.frames⟩) := by
  rw [trace, Node.execAll_eq]
  show Machine.follow _ ((Code.block p.statements).run budget .initial) >>= _ = _
  cases (Code.block p.statements).run budget .initial with
  | error halt => rfl
  | ok r =>
    have frames : (#[] ++ (Frame.stampAll clock r.frames).toArray).toList = Frame.stampAll clock r.frames := by
      rw [Array.empty_append]
    exact congrArg (fun fs => Except.ok (Trace.mk fs)) frames

end Playback
