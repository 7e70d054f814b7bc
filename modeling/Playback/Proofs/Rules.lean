import Playback.Proofs.Semantics
import Mathlib.Tactic.Lemma

/-!
# Rules of execution

`Runs budget code s r` says by rules what `Node.run` computes: from the state `s`, the code runs to
its end and leaves `r` behind. There is one rule for each way in which a statement, a list of
statements or the rounds of a loop may end without a fault, so that a property of all runs is proved
by a single induction with a case for each rule.

Main statement: what the rules derive is what running the code gives (`Runs.run_eq`). The converse is
in `Playback.Proofs.Stages`, where the runs that do not end are described as well.
-/

namespace Playback

/-- What can be run. -/
inductive Code where
  | statement (n : Node)
  /-- Statements one after another. -/
  | block (ns : List Node)
  /-- The rounds of a loop, of which `left` may still be run. -/
  | rounds (guard : Guard) (body : List Node) (left : Nat)

namespace Code

/-- What running the code gives. -/
def run (budget : Budget) : Code → State → Except Halt Run
  | statement n, s => n.run budget s
  | block ns, s => Node.runAll budget ns s
  | rounds guard body left, s =>
    guard.loop.rounds (Node.runAll budget body) budget.overrun left [] s

end Code

namespace Run

/-- The run behind frames that come first. -/
def after (frames : List (Frame Unit)) (r : Run) : Run :=
  { r with frames := frames ++ r.frames }

/-- The run as a block with the frame that ends it. -/
def closed (action : Action) (r : Run) : Run :=
  { r with frames := Frame.closed r.frames action }

variable (frames : List (Frame Unit)) (action : Action) (r : Run)

@[simp] lemma after_frames : (r.after frames).frames = frames ++ r.frames := rfl
@[simp] lemma after_flow : (r.after frames).flow = r.flow := rfl
@[simp] lemma after_state : (r.after frames).state = r.state := rfl
@[simp] lemma closed_frames : (r.closed action).frames = Frame.closed r.frames action := rfl
@[simp] lemma closed_flow : (r.closed action).flow = r.flow := rfl
@[simp] lemma closed_state : (r.closed action).state = r.state := rfl

end Run

/-- The statements of a branch that are run. -/
def Node.chosen (result : Bool) (consequent : List Node) (alternate : Option (List Node)) :
    List Node :=
  if result then consequent else alternate.getD []

/-- The frame of a check before a round. -/
def Guard.check (guard : Guard) (s : State) (result : Bool) : Frame Unit :=
  s.frame guard.loop.line (.check guard.loop.condition result)

/-- The code runs from `s` to its end and leaves `r` behind. -/
inductive Runs (budget : Budget) : Code → State → Run → Prop where
  | declaration {line name value s v} (evaluates : value.evaluate s.store = .ok v) :
      Runs budget (.statement (.declaration line name value)) s (s.assign line name v)
  | print {line value s action} (prints : value.printed s.store = .ok action) :
      Runs budget (.statement (.print line value)) s (s.step line action .next)
  | branch {line condition consequent alternate s result inner}
      (checks : condition.holds s.store = .ok result)
      (runs : Runs budget (.block (Node.chosen result consequent alternate)) (s.passed line) inner) :
      Runs budget (.statement (.branch line condition consequent alternate)) s
        ((inner.after [s.frame line (.check condition.text result)]).closed .endBranch)
  | loopUntil {line condition body s inner}
      (runs : Runs budget (.rounds (.conditional line condition) body budget.rounds)
        (s.passed line) inner) :
      Runs budget (.statement (.loopUntil line condition body)) s
        ((inner.after [s.frame line (.loopUntil condition.negated.text)]).closed
          (.endLoop .conditional))
  | loopFromTo {line counter first last body s x start inner}
      (starts : first.evaluateNumber s.store "from_to" = .ok x)
      (sets : start = s.assign line counter (.number x))
      (runs : Runs budget (.rounds (.counting line counter last) body budget.rounds)
        (start.state.passed line) inner) :
      Runs budget (.statement (.loopFromTo line counter first last body)) s
        ((inner.after (start.frames ++ [start.state.frame line
          (.loopFromTo (Operator.lessEq.applied counter last.text))])).closed (.endLoop .counting))
  | function {line name params body s inner} (runs : Runs budget (.block body) s inner) :
      Runs budget (.statement (.function line name params body)) s
        ⟨[.define (s.lineOf line) () name params inner.frames], .next,
          inner.state.passed (some (s.lineOf line))⟩
  | ret {line value s} :
      Runs budget (.statement (.ret line value)) s (s.step line (.ret value.text) .returned)
  | nil {s} : Runs budget (.block []) s s.idle
  | returned {n ns s first} (runs : Runs budget (.statement n) s first)
      (flow : first.flow = .returned) : Runs budget (.block (n :: ns)) s first
  | next {n ns s first rest} (runs : Runs budget (.statement n) s first)
      (flow : first.flow = .next) (goes : Runs budget (.block ns) first.state rest) :
      Runs budget (.block (n :: ns)) s (rest.after first.frames)
  | stop {guard body left s} (checks : guard.loop.test s.store = .ok false) :
      Runs budget (.rounds guard body left) s
        ⟨[guard.check s false], .next, s.passed guard.loop.line⟩
  -- a return ends the loop, and its counter is not set once more
  | cut {guard body left s round} (checks : guard.loop.test s.store = .ok true)
      (runs : Runs budget (.block body) (s.passed guard.loop.line) round)
      (flow : round.flow = .returned) :
      Runs budget (.rounds guard body (left + 1)) s (round.after [guard.check s true])
  | again {guard body left s round step rest} (checks : guard.loop.test s.store = .ok true)
      (runs : Runs budget (.block body) (s.passed guard.loop.line) round)
      (flow : round.flow = .next) (advances : guard.loop.advance round.state = .ok step)
      (goes : Runs budget (.rounds guard body left) step.state rest) :
      Runs budget (.rounds guard body (left + 1)) s
        (rest.after (guard.check s true :: round.frames ++ step.frames))

/-! ## What running computes -/

section

variable {ε α β : Type}

@[simp] lemma ok_bind (a : α) (f : α → Except ε β) : Except.ok a >>= f = f a := rfl

@[simp] lemma error_bind (e : ε) (f : α → Except ε β) :
    (Except.error e : Except ε α) >>= f = .error e := rfl

@[simp] lemma haltOn_ok (a : α) : haltOn (.ok a) = .ok a := rfl

@[simp] lemma haltOn_error (cause : Fault) :
    haltOn (.error cause : Except Fault α) = .error (.fault cause) := rfl

variable {x : Except ε α}

lemma bind_eq_ok_iff {f : α → Except ε β} {b : β} :
    x >>= f = .ok b ↔ ∃ a, x = .ok a ∧ f a = .ok b := by
  cases x with
  | error e => simp
  | ok a => simp

/-- A computation in two steps fails in the first one, or in the second. -/
lemma bind_eq_error_iff {f : α → Except ε β} {e : ε} :
    x >>= f = .error e ↔ x = .error e ∨ ∃ a, x = .ok a ∧ f a = .error e := by
  cases x with
  | error e' => simp
  | ok a => simp

lemma map_eq_ok_iff {f : α → β} {b : β} : x.map f = .ok b ↔ ∃ a, x = .ok a ∧ f a = b := by
  cases x with
  | error e => simp [Except.map]
  | ok a => simp [Except.map]

lemma map_eq_error_iff {f : α → β} {e : ε} : x.map f = .error e ↔ x = .error e := by
  cases x with
  | error e' => simp [Except.map]
  | ok a => simp [Except.map]

end

/-- A print shows the value of a variable that is set, or else a literal. -/
lemma Node.printed_cases {store : Store} {n : Node} {action : Action}
    (prints : n.printed store = .ok action) :
    (∃ name v, store.get? name = some v ∧ action = .print false (some name) v.primitive) ∨
      ∃ literal, action = .print true none literal := by
  unfold printed at prints
  split at prints
  · split at prints
    · rename_i v hget
      exact .inl ⟨_, v, hget, (Except.ok.inj prints).symm⟩
    · exact .inr ⟨_, (Except.ok.inj prints).symm⟩
  · obtain ⟨v, -, rfl⟩ := map_eq_ok_iff.1 prints
    exact .inr ⟨_, rfl⟩

lemma Guard.advance_conditional {line condition s step}
    (advances : (conditional line condition).loop.advance s = .ok step) : step = s.idle := by
  cases advances
  rfl

/-- Behind a round, a counting loop sets its counter, which is a number. -/
lemma Guard.advance_counting {line counter last s step}
    (advances : (counting line counter last).loop.advance s = .ok step) :
    ∃ x, s.store.counter counter = .ok x ∧ step = s.assign line counter (.number (x + 1.0)) := by
  obtain ⟨x, hx, heq⟩ := bind_eq_ok_iff.1 advances
  cases heq
  exact ⟨x, hx, rfl⟩

/-- The frames so far stay in front of those of the rounds. -/
lemma Loop.rounds_onto (loop : Loop) (body : State → Except Halt Run) (overrun : UInt32 → Halt)
    (left : Nat) (done : List (Frame Unit)) (s : State) :
    loop.rounds body overrun left done s =
      (loop.rounds body overrun left [] s).map (Run.after done.reverse) := by
  induction left generalizing done s with
  | zero =>
    unfold rounds
    cases loop.test s.store with
    | error cause => rfl
    | ok result => cases result <;> simp [Except.map, Run.after]
  | succ left ih =>
    unfold rounds
    cases loop.test s.store with
    | error cause => rfl
    | ok result =>
      cases result with
      | false => simp [Except.map, Run.after]
      | true =>
        simp only [haltOn_ok, ok_bind, if_true]
        cases body (s.passed loop.line) with
        | error halt => rfl
        | ok round =>
          obtain ⟨frames, flow, state⟩ := round
          cases flow with
          | returned => simp [Except.map, Run.after]
          | next =>
            simp only [ok_bind]
            cases loop.advance state with
            | error cause => rfl
            | ok step =>
              -- both sides go on with more frames done than the induction starts with
              rw [haltOn_ok, ok_bind, ok_bind, ih, ih (step.frames.reverseAux _)]
              cases loop.rounds body overrun left [] step.state with
              | error halt => rfl
              | ok r => simp [Except.map, Run.after]

namespace Code

variable (budget : Budget) (line : Option UInt32) (s : State)

lemma run_declaration (name : String) (value : Node) :
    (statement (.declaration line name value)).run budget s = (do
      let v ← haltOn (value.evaluate s.store)
      .ok (s.assign line name v)) := by
  rw [run, Node.run]

lemma run_print (value : Node) :
    (statement (.print line value)).run budget s = (do
      let action ← haltOn (value.printed s.store)
      .ok (s.step line action .next)) := by
  rw [run, Node.run]

lemma run_branch (condition : Node) (consequent : List Node) (alternate : Option (List Node)) :
    (statement (.branch line condition consequent alternate)).run budget s = (do
      let result ← haltOn (condition.holds s.store)
      let inner ← (block (Node.chosen result consequent alternate)).run budget (s.passed line)
      .ok ((inner.after [s.frame line (.check condition.text result)]).closed .endBranch)) := by
  rw [run, Node.run]
  cases condition.holds s.store with
  | error cause => rfl
  | ok result =>
    cases result with
    | true => rfl
    | false => cases alternate <;> rfl

lemma run_loopUntil (condition : Node) (body : List Node) :
    (statement (.loopUntil line condition body)).run budget s = (do
      let inner ← (rounds (.conditional line condition) body budget.rounds).run budget
        (s.passed line)
      .ok ((inner.after [s.frame line (.loopUntil condition.negated.text)]).closed
        (.endLoop .conditional))) := by
  rw [run, Node.run, Loop.rounds_onto, run]
  cases Loop.rounds (Guard.conditional line condition).loop (Node.runAll budget body) budget.overrun
    budget.rounds [] (s.passed line) <;> rfl

lemma run_loopFromTo (counter : String) (first last : Node) (body : List Node) :
    (statement (.loopFromTo line counter first last body)).run budget s = (do
      let x ← haltOn (first.evaluateNumber s.store "from_to")
      let start := s.assign line counter (.number x)
      let inner ← (rounds (.counting line counter last) body budget.rounds).run budget
        (start.state.passed line)
      .ok ((inner.after (start.frames ++ [start.state.frame line
        (.loopFromTo (Operator.lessEq.applied counter last.text))])).closed
          (.endLoop .counting))) := by
  rw [run, Node.run]
  cases first.evaluateNumber s.store "from_to" with
  | error cause => rfl
  | ok x =>
    simp only [haltOn_ok, ok_bind]
    rw [Loop.rounds_onto, run]
    cases Loop.rounds (Guard.counting line counter last).loop (Node.runAll budget body) budget.overrun
      budget.rounds [] ((s.assign line counter (.number x)).state.passed line) <;> rfl

lemma run_function (name : String) (params : List String) (body : List Node) :
    (statement (.function line name params body)).run budget s = (do
      let inner ← (block body).run budget s
      .ok ⟨[.define (s.lineOf line) () name params inner.frames], .next,
        inner.state.passed (some (s.lineOf line))⟩) := by
  rw [run, Node.run, run]

lemma run_ret (value : Node) :
    (statement (.ret line value)).run budget s = .ok (s.step line (.ret value.text) .returned) := by
  rw [run, Node.run]

lemma run_nil : (block []).run budget s = .ok s.idle := by
  rw [run, Node.runAll]

lemma run_cons (n : Node) (ns : List Node) :
    (block (n :: ns)).run budget s = (do
      let first ← (statement n).run budget s
      match first.flow with
      | .returned => .ok first
      | .next =>
        let rest ← (block ns).run budget first.state
        .ok (rest.after first.frames)) := by
  simp only [run]
  rw [Node.runAll]
  rfl

/-- Two lists of statements run one after the other, unless the first one returns. -/
lemma run_append (ns ms : List Node) :
    (block (ns ++ ms)).run budget s = (do
      let first ← (block ns).run budget s
      match first.flow with
      | .returned => .ok first
      | .next =>
        let rest ← (block ms).run budget first.state
        .ok (rest.after first.frames)) := by
  induction ns generalizing s with
  | nil =>
    rw [List.nil_append, run_nil, ok_bind]
    show _ = (block ms).run budget s >>= fun rest => .ok (rest.after [])
    cases (block ms).run budget s <;> rfl
  | cons n ns ih =>
    rw [List.cons_append, run_cons, run_cons]
    cases (statement n).run budget s with
    | error halt => rfl
    | ok first =>
      obtain ⟨frames, flow, state⟩ := first
      cases flow with
      | returned => rfl
      | next =>
        simp only [ok_bind]
        rw [ih]
        cases (block ns).run budget state with
        | error halt => rfl
        | ok second =>
          obtain ⟨frames', flow', state'⟩ := second
          cases flow' with
          | returned => rfl
          | next =>
            simp only [ok_bind, Run.after]
            cases (block ms).run budget state' with
            | error halt => rfl
            | ok rest => simp

variable (guard : Guard) (body : List Node)

lemma run_rounds_zero :
    (rounds guard body 0).run budget s = (do
      let result ← haltOn (guard.loop.test s.store)
      if result then .error (budget.overrun (s.passed guard.loop.line).lastLine)
      else .ok ⟨[guard.check s false], .next, s.passed guard.loop.line⟩) := by
  rw [run, Loop.rounds]
  cases guard.loop.test s.store with
  | error cause => rfl
  | ok result => cases result <;> rfl

lemma run_rounds_succ (left : Nat) :
    (rounds guard body (left + 1)).run budget s = (do
      let result ← haltOn (guard.loop.test s.store)
      if result then
        let round ← (block body).run budget (s.passed guard.loop.line)
        match round.flow with
        | .returned => .ok (round.after [guard.check s true])
        | .next =>
          let step ← haltOn (guard.loop.advance round.state)
          let rest ← (rounds guard body left).run budget step.state
          .ok (rest.after (guard.check s true :: round.frames ++ step.frames))
      else .ok ⟨[guard.check s false], .next, s.passed guard.loop.line⟩) := by
  simp only [run]
  rw [Loop.rounds]
  cases guard.loop.test s.store with
  | error cause => rfl
  | ok result =>
    cases result with
    | false => rfl
    | true =>
      simp only [haltOn_ok, ok_bind, if_true]
      cases Node.runAll budget body (s.passed guard.loop.line) with
      | error halt => rfl
      | ok round =>
        obtain ⟨frames, flow, state⟩ := round
        cases flow with
        | returned => simp [Run.after, Guard.check]
        | next =>
          simp only [ok_bind]
          cases guard.loop.advance state with
          | error cause => rfl
          | ok step =>
            rw [haltOn_ok, ok_bind, ok_bind, Loop.rounds_onto]
            cases guard.loop.rounds (Node.runAll budget body) budget.overrun left [] step.state with
            | error halt => rfl
            | ok r => simp [Except.map, Run.after, Guard.check]

end Code

/-- What the rules derive is what running the code gives. -/
theorem Runs.run_eq {budget code s r} (runs : Runs budget code s r) :
    code.run budget s = .ok r := by
  induction runs with
  | declaration evaluates =>
    rw [Code.run_declaration, evaluates]
    rfl
  | print prints =>
    rw [Code.run_print, prints]
    rfl
  | branch checks _ ih =>
    rw [Code.run_branch, checks, haltOn_ok, ok_bind, ih]
    rfl
  | loopUntil _ ih =>
    rw [Code.run_loopUntil, ih]
    rfl
  | loopFromTo starts sets _ ih =>
    subst sets
    rw [Code.run_loopFromTo, starts, haltOn_ok, ok_bind]
    dsimp only
    rw [ih]
    rfl
  | function _ ih =>
    rw [Code.run_function, ih]
    rfl
  | ret => rw [Code.run_ret]
  | nil => rw [Code.run_nil]
  | returned _ flow ih =>
    rw [Code.run_cons, ih, ok_bind, flow]
  | next _ flow _ ih ihrest =>
    rw [Code.run_cons, ih, ok_bind, flow]
    dsimp only
    rw [ihrest]
    rfl
  | @stop guard body left s checks =>
    cases left with
    | zero =>
      rw [Code.run_rounds_zero, checks]
      rfl
    | succ left =>
      rw [Code.run_rounds_succ, checks]
      rfl
  | cut checks _ flow ih =>
    rw [Code.run_rounds_succ, checks, haltOn_ok, ok_bind, if_pos rfl, ih, ok_bind, flow]
  | again checks _ flow advances _ ih ihrest =>
    rw [Code.run_rounds_succ, checks, haltOn_ok, ok_bind, if_pos rfl, ih, ok_bind, flow]
    dsimp only
    rw [advances, haltOn_ok, ok_bind, ihrest]
    rfl

lemma Runs.unique {budget code s r r'} (runs : Runs budget code s r)
    (runs' : Runs budget code s r') : r = r' :=
  Except.ok.inj (runs.run_eq.symm.trans runs'.run_eq)

end Playback
