import Playback.Proofs.Nesting
import Playback.Proofs.Reads

/-!
# Provenance

A slice counts as its text wherever a value is read, so a program cannot tell where a text comes from.
`Store.primitive` leaves out the origins of all values, and a code is `Blind` when it does the same from
a store with and without them.

Main statement: expressions, operators and runs do the same when the origins are left out, and only a
substring expression itself yields an origin (`Store.origins_unseen`).
-/

namespace Playback

/-! ## Values -/

namespace Value

variable (op : Operator) (a b v : Value)

@[simp] lemma inQuotes_primitive : v.primitive.inQuotes = v.inQuotes := by
  cases v <;> rfl

@[simp] lemma negation_primitive : v.primitive.negation = v.negation := by
  rw [negation, negation, isTruthy_primitive]

@[simp] lemma length_primitive : v.primitive.length = v.length := by
  rw [length, length, display_primitive]

@[simp] lemma cut_primitive (source : String) (first last : Int) :
    v.primitive.cut source first last = v.cut source first last := by
  rw [cut, cut, display_primitive]

@[simp] lemma requireNumber_primitive (context : String) :
    v.primitive.requireNumber context = v.requireNumber context := by
  rw [requireNumber, requireNumber, toNumber?_primitive, inQuotes_primitive]

@[simp] lemma requireIndex_primitive : v.primitive.requireIndex = v.requireIndex := by
  rw [requireIndex, requireIndex, requireNumber_primitive]

lemma numbers_primitive : numbers op a.primitive b.primitive = numbers op a b := by
  simp only [numbers, toNumber?_primitive, inQuotes_primitive]

lemma joins_primitive : joins a.primitive b.primitive = joins a b := by
  simp only [joins, text?_primitive, toNumber?_primitive]

lemma add_primitive : add a.primitive b.primitive = add a b := by
  simp only [add, joins_primitive, arithmetic, numbers_primitive, display_primitive]

lemma order_primitive : order op a.primitive b.primitive = order op a b := by
  simp only [order, numbers_primitive, text?_primitive]

lemma isEqual_primitive : isEqual a.primitive b.primitive = isEqual a b := by
  simp only [isEqual, text?_primitive, toNumber?_primitive, display_primitive]

/-- An operator does the same on slices and on their texts. -/
lemma binary_primitive : binary op a.primitive b.primitive = binary op a b := by
  cases op with
  | add => exact add_primitive a b
  | sub | mul => simp only [binary, arithmetic, numbers_primitive]
  | div => simp only [binary, divide, numbers_primitive]
  | equal | notEqual => simp only [binary, isEqual_primitive]
  | less | lessEq | greater | greaterEq => simp only [binary, compare, order_primitive]
  | and | or => simp only [binary, isTruthy_primitive]
  | not => rfl

end Value

/-! ## Stores -/

namespace Store

/-- The store with no origins. -/
def primitive (store : Store) : Store :=
  ⟨store.entries.map fun (name, v) => (name, v.primitive)⟩

variable (store : Store) (name : String)

@[simp] lemma get?_primitive : store.primitive.get? name = (store.get? name).map Value.primitive := by
  obtain ⟨entries⟩ := store
  show find? name (entries.map _) = (find? name entries).map _
  induction entries with
  | nil => rfl
  | cons e rest ih =>
    obtain ⟨n, v⟩ := e
    by_cases h : n = name <;> simp [find?, h, ih]

@[simp] lemma read_primitive : store.primitive.read name = (store.read name).map Value.primitive := by
  rw [read, read, get?_primitive]
  cases store.get? name <;> rfl

lemma primitive_set (v : Value) : (store.set name v).primitive = store.primitive.set name v.primitive := by
  obtain ⟨entries⟩ := store
  show Store.mk ((replace name v entries).map _) = ⟨replace name v.primitive (entries.map _)⟩
  congr 1
  induction entries with
  | nil => rfl
  | cons e rest ih =>
    obtain ⟨n, w⟩ := e
    by_cases h : n = name <;> simp [replace, h, ih]

@[simp] lemma primitive_primitive : store.primitive.primitive = store.primitive := by
  simp [primitive]

@[simp] lemma counter_primitive : store.primitive.counter name = store.counter name := by
  rw [counter, counter, read_primitive]
  cases store.read name with
  | error cause => rfl
  | ok v => cases v <;> rfl

end Store

/-! ## Expressions -/

namespace Node

/-- The value of an expression, or its fault, depends on no origins. -/
lemma evaluate_primitive (store : Store) : ∀ n : Node, n.evaluate store.primitive = n.evaluate store
  | identifier _ name => by
    rw [evaluate, evaluate, Store.read_primitive]
    cases store.read name <;> simp [Except.map]
  | length _ name => by
    rw [evaluate, evaluate, Store.read_primitive]
    cases store.read name <;> simp [Except.map]
  | substring _ source first last => by
    rw [evaluate, evaluate, Store.read_primitive, first.evaluate_primitive store,
      last.evaluate_primitive store]
    cases store.read source <;> simp [Except.map]
  | expression line (some l) op (some r) => by
    cases unary : op.isUnary with
    | true =>
      cases op <;> cases unary
      rw [evaluate_not_right, evaluate_not_right, r.evaluate_primitive store]
    | false =>
      rw [evaluate_binary _ _ unary, evaluate_binary _ _ unary, l.evaluate_primitive store,
        r.evaluate_primitive store]
  | expression line (some l) op none => by
    cases op with
    | not => rw [evaluate_not_left, evaluate_not_left, l.evaluate_primitive store]
    | _ => rfl
  | expression line none op (some r) => by
    cases op with
    | not => rw [evaluate_not_right, evaluate_not_right, r.evaluate_primitive store]
    | _ => rfl
  | expression line none op none => by cases op <;> rfl
  | number .. | string .. | boolean .. | declaration .. | print .. | branch .. | loopUntil ..
  | loopFromTo .. | function .. | ret .. | unsupported .. => rfl

variable (store : Store) (n : Node)

lemma holds_primitive : n.holds store.primitive = n.holds store := by
  rw [holds, holds, evaluate_primitive]

lemma evaluateNumber_primitive (context : String) :
    n.evaluateNumber store.primitive context = n.evaluateNumber store context := by
  rw [evaluateNumber, evaluateNumber, evaluate_primitive]

/-- A variable is printed without its origin. -/
lemma printed_primitive : n.printed store.primitive = n.printed store := by
  cases n with
  | identifier line name =>
    rw [printed, printed, Store.get?_primitive]
    cases store.get? name <;> simp
  | _ =>
    rw [printed_of_ne, printed_of_ne, evaluate_primitive]
    all_goals
      intro line name same
      cases same

end Node

/-! ## Runs -/

/-- The state with no origins. -/
def State.primitive (s : State) : State :=
  { s with store := s.store.primitive }

/-- The run with no origins in the state that it leaves behind; its frames keep theirs. -/
def Run.primitive (r : Run) : Run :=
  { r with state := r.state.primitive }

/-- The machine with no origins in its store; the frames that it has emitted keep theirs. -/
def Machine.primitive (m : Machine) : Machine :=
  { m with store := m.store.primitive }

namespace State

variable (s : State) (line : Option UInt32)

@[simp] lemma store_primitive : s.primitive.store = s.store.primitive := rfl

@[simp] lemma lineOf_primitive : s.primitive.lineOf line = s.lineOf line := rfl

@[simp] lemma passed_primitive : s.primitive.passed line = (s.passed line).primitive := rfl

@[simp] lemma frame_primitive (action : Action) :
    s.primitive.frame line action = s.frame line action := rfl

@[simp] lemma primitive_primitive : s.primitive.primitive = s.primitive :=
  congrArg (State.mk · s.lastLine) s.store.primitive_primitive

lemma idle_primitive : s.primitive.idle.primitive = s.idle.primitive :=
  congrArg (Run.mk [] .next) s.primitive_primitive

lemma step_primitive (action : Action) (flow : Flow) :
    (s.primitive.step line action flow).primitive = (s.step line action flow).primitive :=
  congrArg (Run.mk [s.frame line action] flow) (s.passed line).primitive_primitive

lemma assign_primitive (name : String) (v : Value) :
    (s.primitive.assign line name v).primitive = (s.assign line name v).primitive := by
  simp only [assign, step, Run.primitive, primitive, passed, Store.primitive_set,
    Store.primitive_primitive]
  rfl

end State

namespace Run

variable {r r' : Run}

lemma primitive_eq_iff : r.primitive = r'.primitive ↔
    r.frames = r'.frames ∧ r.flow = r'.flow ∧ r.state.primitive = r'.state.primitive := by
  rw [primitive, primitive, Run.mk.injEq]

end Run

/-- Both computations halt for the same cause, or leave behind runs that are the same but for origins in
the store. -/
def Indistinct (x y : Except Halt Run) : Prop :=
  x.map Run.primitive = y.map Run.primitive

namespace Indistinct

variable {x y z : Except Halt Run}

lemma refl (x : Except Halt Run) : Indistinct x x := rfl

lemma ok {r r' : Run} (h : r.primitive = r'.primitive) : Indistinct (.ok r) (.ok r') :=
  congrArg Except.ok h

lemma bind {f g : Run → Except Halt Run} (first : Indistinct x y)
    (rest : ∀ r r', r.primitive = r'.primitive → Indistinct (f r) (g r')) :
    Indistinct (x >>= f) (y >>= g) := by
  cases x with
  | error halt =>
    cases y with
    | error halt' =>
      cases first
      rfl
    | ok r' => cases first
  | ok r =>
    cases y with
    | error halt' => cases first
    | ok r' => exact rest r r' (Except.ok.inj first)

/-- A step that both computations do, and that may meet a fault. -/
lemma bind_haltOn {α : Type} {step : Except Fault α} {f g : α → Except Halt Run}
    (rest : ∀ a, Indistinct (f a) (g a)) : Indistinct (haltOn step >>= f) (haltOn step >>= g) := by
  cases step with
  | error cause => rfl
  | ok a => exact rest a

end Indistinct

/-- The code does the same without origins. -/
def Code.Blind (budget : Budget) (code : Code) : Prop :=
  ∀ s : State, Indistinct (code.run budget s.primitive) (code.run budget s)

/-- A blind code does the same in all states that are the same but for origins. -/
lemma Code.Blind.indistinct {budget : Budget} {code : Code} (blind : code.Blind budget) {s s' : State}
    (h : s.primitive = s'.primitive) : Indistinct (code.run budget s) (code.run budget s') :=
  (blind s).symm.trans (h ▸ blind s')

namespace Guard

variable (guard : Guard)

lemma test_primitive (store : Store) : guard.loop.test store.primitive = guard.loop.test store := by
  cases guard with
  | conditional line condition => exact condition.negated.holds_primitive store
  | counting line counter last =>
    simp only [loop, test, Store.counter_primitive, Node.evaluateNumber_primitive]

lemma check_primitive (s : State) (result : Bool) : guard.check s.primitive result = guard.check s result :=
  rfl

lemma advance_primitive (s : State) :
    Indistinct (haltOn (guard.loop.advance s.primitive)) (haltOn (guard.loop.advance s)) := by
  cases guard with
  | conditional line condition => exact .ok s.idle_primitive
  | counting line counter last =>
    show Indistinct (haltOn (s.primitive.store.counter counter >>= _))
      (haltOn (s.store.counter counter >>= _))
    rw [State.store_primitive, Store.counter_primitive]
    cases s.store.counter counter with
    | error cause => exact .refl _
    | ok x => exact .ok (s.assign_primitive line counter _)

/-- The loop goes on in the same way behind rounds that are the same but for origins. -/
lemma advance_indistinct {s s' : State} (h : s.primitive = s'.primitive) :
    Indistinct (haltOn (guard.loop.advance s)) (haltOn (guard.loop.advance s')) :=
  (guard.advance_primitive s).symm.trans (h ▸ guard.advance_primitive s')

end Guard

namespace Code

variable {budget : Budget}

/-- The rounds of a loop are blind when its body is. -/
lemma blind_rounds {body : List Node} (h : (block body).Blind budget) (guard : Guard) :
    ∀ left, (rounds guard body left).Blind budget
  | 0, s => by
    rw [run_rounds_zero, run_rounds_zero, State.store_primitive, guard.test_primitive]
    refine .bind_haltOn fun result => ?_
    cases result with
    | true => exact .refl _
    | false => exact .ok (s.step_primitive ..)
  | left + 1, s => by
    rw [run_rounds_succ, run_rounds_succ, State.store_primitive, guard.test_primitive]
    refine .bind_haltOn fun result => ?_
    cases result with
    | false => exact .ok (s.step_primitive ..)
    | true =>
      refine .bind (h (s.passed guard.loop.line)) fun round round' same => ?_
      obtain ⟨frames, flow, state⟩ := Run.primitive_eq_iff.1 same
      rw [← flow]
      cases round.flow with
      | returned => exact .ok (congrArg (Run.after [guard.check s true]) same)
      | next =>
        refine .bind (guard.advance_indistinct state) fun step step' advanced => ?_
        obtain ⟨steps, -, state⟩ := Run.primitive_eq_iff.1 advanced
        refine .bind ((blind_rounds h guard left).indistinct state) fun rest rest' goes => .ok ?_
        rw [guard.check_primitive, frames, steps]
        exact congrArg (Run.after (guard.check s true :: round'.frames ++ step'.frames)) goes

lemma blind_branch {line : Option UInt32} {condition : Node} {consequent : List Node}
    {alternate : Option (List Node)}
    (h : ∀ result, (block (Node.chosen result consequent alternate)).Blind budget) :
    (statement (.branch line condition consequent alternate)).Blind budget := by
  intro s
  rw [run_branch, run_branch, State.store_primitive, condition.holds_primitive]
  refine .bind_haltOn fun result => .bind (h result (s.passed line)) fun inner inner' same => .ok ?_
  exact congrArg (fun r => (r.after [s.frame line (.check condition.text result)]).closed .endBranch) same

end Code

namespace Node

variable {budget : Budget}

mutual

/-- A statement does the same without origins. -/
lemma blind_run : ∀ n : Node, (Code.statement n).Blind budget
  | declaration line name value, s => by
    rw [Code.run_declaration, Code.run_declaration, State.store_primitive, evaluate_primitive]
    exact .bind_haltOn fun v => .ok (s.assign_primitive ..)
  | print line value, s => by
    rw [Code.run_print, Code.run_print, State.store_primitive, printed_primitive]
    exact .bind_haltOn fun action => .ok (s.step_primitive ..)
  | branch line condition consequent none, s => by
    refine Code.blind_branch (fun result => ?_) s
    cases result with
    | true => exact blind_runAll consequent
    | false => exact blind_runAll []
  | branch line condition consequent (some alternate), s => by
    refine Code.blind_branch (fun result => ?_) s
    cases result with
    | true => exact blind_runAll consequent
    | false => exact blind_runAll alternate
  | loopUntil line condition body, s => by
    rw [Code.run_loopUntil, Code.run_loopUntil]
    have rounds := Code.blind_rounds (blind_runAll body) (.conditional line condition) budget.rounds
    refine .bind (rounds (s.passed line)) fun inner inner' same => .ok ?_
    exact congrArg (fun r => (r.after [s.frame line (.loopUntil condition.negated.text)]).closed
      (.endLoop .conditional)) same
  | loopFromTo line counter first last body, s => by
    rw [Code.run_loopFromTo, Code.run_loopFromTo, State.store_primitive, evaluateNumber_primitive]
    refine .bind_haltOn fun x => ?_
    have rounds := Code.blind_rounds (blind_runAll body) (.counting line counter last) budget.rounds
    let start := s.assign line counter (.number x)
    have started := congrArg Run.state (s.assign_primitive line counter (.number x))
    have passed := congrArg (State.passed · line) started
    refine .bind (rounds.indistinct passed) fun inner inner' same => .ok ?_
    exact congrArg (fun r => (r.after (start.frames ++ [start.state.frame line
      (.loopFromTo (Operator.lessEq.applied counter last.text))])).closed (.endLoop .counting)) same
  | function line name params body, s => by
    rw [Code.run_function, Code.run_function]
    refine .bind (blind_runAll body s) fun inner inner' same => .ok ?_
    obtain ⟨frames, -, state⟩ := Run.primitive_eq_iff.1 same
    rw [Run.primitive_eq_iff, frames]
    exact ⟨rfl, rfl, congrArg (State.passed · (some (s.lineOf line))) state⟩
  | ret line value, s => by
    rw [Code.run_ret, Code.run_ret]
    exact .ok (s.step_primitive ..)
  | expression .., s | identifier .., s | number .., s | string .., s | boolean .., s | length .., s
  | substring .., s | unsupported .., s => .refl _

lemma blind_runAll : ∀ ns : List Node, (Code.block ns).Blind budget
  | [], s => by
    rw [Code.run_nil, Code.run_nil]
    exact .ok s.idle_primitive
  | n :: ns, s => by
    rw [Code.run_cons, Code.run_cons]
    refine .bind (blind_run n s) fun first first' same => ?_
    obtain ⟨frames, flow, state⟩ := Run.primitive_eq_iff.1 same
    rw [← flow]
    cases first.flow with
    | returned => exact .ok same
    | next =>
      refine .bind ((blind_runAll ns).indistinct state) fun rest rest' goes => .ok ?_
      rw [frames]
      exact congrArg (Run.after first'.frames) goes

end

end Node

/-- Machines that have emitted the same do the same where their runs are the same but for origins. -/
lemma Machine.follow_primitive {m m' : Machine} (same : m.emitter = m'.emitter) {x y : Except Halt Run}
    (h : Indistinct x y) : (m.follow x).map (Prod.map id primitive) =
      (m'.follow y).map (Prod.map id primitive) := by
  cases x with
  | error halt =>
    cases y with
    | error halt' => cases h; rfl
    | ok r' => cases h
  | ok r =>
    cases y with
    | error halt' => cases h
    | ok r' =>
      obtain ⟨frames, flow, state⟩ := Run.primitive_eq_iff.1 (Except.ok.inj h)
      obtain ⟨store, lastLine⟩ := State.mk.inj state
      show Except.ok (r.flow, Machine.mk r.state.store.primitive _) =
        .ok (r'.flow, Machine.mk r'.state.store.primitive _)
      rw [flow, store, behind, behind, same, frames, show r.state.lastLine = r'.state.lastLine from lastLine]

/-- A store with and without the origins of its values is the same to a program. Every expression has the
same value or the same fault in both, and only a substring expression itself yields a slice. Operators do
the same on slices and on their texts. Every list of statements, under every budget and behind every
line, yields the same frames and ends in the same way, or halts for the same cause, and the stores that it
leaves behind are the same but for origins; so does every machine that executes them. -/
theorem Store.origins_unseen (store : Store) :
    (∀ n : Node, n.evaluate store.primitive = n.evaluate store ∧
      ∀ s, n.evaluate store = .ok (.slice s) →
        ∃ line source first last, n = .substring line source first last) ∧
    (∀ (op : Operator) (a b : Value), Value.binary op a.primitive b.primitive = Value.binary op a b) ∧
    (∀ v : Value, v.primitive.negation = v.negation) ∧
    (∀ (budget : Budget) (ns : List Node) (lastLine : UInt32),
      (Node.runAll budget ns ⟨store.primitive, lastLine⟩).map Run.primitive =
        (Node.runAll budget ns ⟨store, lastLine⟩).map Run.primitive) ∧
    ∀ (budget : Budget) (ns : List Node) (emitter : Emitter),
      (Node.execAll budget ns ⟨store.primitive, emitter⟩).map (Prod.map id Machine.primitive) =
        (Node.execAll budget ns ⟨store, emitter⟩).map (Prod.map id Machine.primitive) := by
  refine ⟨fun n => ⟨n.evaluate_primitive store, fun _ h => (Node.isBounded_of_evaluate h).2⟩,
    Value.binary_primitive, Value.negation_primitive,
    fun _ ns lastLine => Node.blind_runAll ns ⟨store, lastLine⟩, fun budget ns emitter => ?_⟩
  have same : Indistinct ((Code.block ns).run budget ⟨store.primitive, emitter.lastLine⟩)
      ((Code.block ns).run budget ⟨store, emitter.lastLine⟩) := Node.blind_runAll ns ⟨store, _⟩
  rw [Node.execAll_eq, Node.execAll_eq]
  exact Machine.follow_primitive rfl same

/-- The first two characters of a word. -/
def firstPart : Node :=
  .substring none "word" (.number none 0) (.number none 2)

/-- Sets the first part of a word, joins it to the word, and prints that. -/
def joinsParts : List Node := [
  .declaration (some 1) "part" firstPart,
  .declaration (some 2) "whole"
    (.expression none (some (.identifier none "part")) .add (some (.identifier none "word"))),
  .print (some 3) (.identifier none "whole")]

/-- `joinsParts` shows the same three frames for a word that was cut out of a line, and for one that is a
text. -/
theorem Store.origins_unseen_joinsParts :
    let cut := Store.empty.set "word" (.slice ⟨"line", 2, 5, "abc"⟩)
    let plain := Store.empty.set "word" (.text "abc")
    firstPart.evaluate cut = .ok (.slice ⟨"word", 0, 2, "ab"⟩) ∧
      firstPart.evaluate plain = firstPart.evaluate cut ∧
      (∃ line source first last, firstPart = .substring line source first last) ∧
      ∃ r r', Node.runAll (.limit 1) joinsParts ⟨cut, 0⟩ = .ok r ∧
        Node.runAll (.limit 1) joinsParts ⟨plain, 0⟩ = .ok r' ∧ r.frames.length = 3 ∧
        r'.frames = r.frames ∧ r'.state.store ≠ r.state.store := by
  intro cut plain
  obtain ⟨expressions, -, -, runs, -⟩ := Store.origins_unseen cut
  have evaluates : firstPart.evaluate cut = .ok (.slice ⟨"word", 0, 2, "ab"⟩) ∧
      (Node.runAll (.limit 1) joinsParts ⟨cut, 0⟩).map (fun r =>
        (r.frames.length, r.state.store.get? "word")) =
          .ok (3, some (.slice ⟨"line", 2, 5, "abc"⟩)) ∧
      (Node.runAll (.limit 1) joinsParts ⟨plain, 0⟩).map (fun r => r.state.store.get? "word") =
        .ok (some (.text "abc")) := by
    decide +kernel
  obtain ⟨part, ends, ends'⟩ := evaluates
  obtain ⟨r, h, shown⟩ := map_eq_ok_iff.1 ends
  obtain ⟨r', h', word'⟩ := map_eq_ok_iff.1 ends'
  obtain ⟨size, word⟩ := Prod.mk.inj shown
  have same := runs (.limit 1) joinsParts 0
  rw [show cut.primitive = plain from rfl, h, h'] at same
  obtain ⟨frames, -, -⟩ := Run.primitive_eq_iff.1 (Except.ok.inj same)
  refine ⟨part, (expressions firstPart).1, (expressions firstPart).2 _ part, r, r', h, h', size,
    frames, fun stores => ?_⟩
  rw [stores, word] at word'
  cases word'

end Playback
