import Playback.Proofs.Emission

/-!
# Stages of a run

A run is a sequence of stages: a statement is about to run, a loop is about to check its condition,
a loop is about to advance its counter, or something has ended. `Reaches` says which stages a run
comes to, in which state, and behind which frames; it speaks of runs that end in a fault, and of those
whose rounds do not suffice, just as of those that end well. The frames are in the order in which they
are emitted: those of a function that still runs stand there without their definition.

Main statements: a code halts exactly when its run comes to a stage whose own step halts
(`Code.halts_iff`), and it ends well exactly when the rules say so (`Code.ends_iff`).
-/

namespace Playback

/-- What is about to happen in a run. -/
inductive Stage where
  /-- The statement runs. -/
  | statement (n : Node)
  /-- The loop checks its condition, and `left` rounds may still be run. -/
  | check (guard : Guard) (left : Nat)
  /-- The loop goes on behind a round. -/
  | advance (guard : Guard)
  /-- The code has ended. -/
  | ended

/-- The statements that can run; every other node is an expression or not supported. -/
def Node.isStatement : Node → Bool
  | declaration .. | print .. | branch .. | loopUntil .. | loopFromTo .. | function .. | ret .. =>
    true
  | _ => false

/-- The step of a stage itself halts the run. -/
inductive Stage.Halts (budget : Budget) : Stage → State → Halt → Prop where
  | declaration {line name value s cause} (fails : value.evaluate s.store = .error cause) :
      Halts budget (.statement (.declaration line name value)) s (.fault cause)
  | print {line value s cause} (fails : value.printed s.store = .error cause) :
      Halts budget (.statement (.print line value)) s (.fault cause)
  | branch {line condition consequent alternate s cause}
      (fails : condition.holds s.store = .error cause) :
      Halts budget (.statement (.branch line condition consequent alternate)) s (.fault cause)
  | loopFromTo {line counter first last body s cause}
      (fails : first.evaluateNumber s.store "from_to" = .error cause) :
      Halts budget (.statement (.loopFromTo line counter first last body)) s (.fault cause)
  | misplaced {n s} (expression : n.isStatement = false) :
      Halts budget (.statement n) s (.fault (.unsupported n.kind))
  | check {guard left s cause} (fails : guard.loop.test s.store = .error cause) :
      Halts budget (.check guard left) s (.fault cause)
  | overrun {guard s} (checks : guard.loop.test s.store = .ok true) :
      Halts budget (.check guard 0) s (budget.overrun (s.passed guard.loop.line).lastLine)
  | advance {guard s cause} (fails : guard.loop.advance s = .error cause) :
      Halts budget (.advance guard) s (.fault cause)

/-- Running the code from `s` comes to the stage in the state `s'`, behind the frames `log`. -/
inductive Reaches (budget : Budget) :
    Code → State → Stage → List (Frame Unit) → State → Prop where
  | statement {n s} : Reaches budget (.statement n) s (.statement n) [] s
  | branch {line condition consequent alternate s result stage log s'}
      (checks : condition.holds s.store = .ok result)
      (reaches : Reaches budget (.block (Node.chosen result consequent alternate)) (s.passed line)
        stage log s') :
      Reaches budget (.statement (.branch line condition consequent alternate)) s stage
        (s.frame line (.check condition.text result) :: log) s'
  | loopUntil {line condition body s stage log s'}
      (reaches : Reaches budget (.rounds (.conditional line condition) body budget.rounds)
        (s.passed line) stage log s') :
      Reaches budget (.statement (.loopUntil line condition body)) s stage
        (s.frame line (.loopUntil condition.negated.text) :: log) s'
  | loopFromTo {line counter first last body s x start stage log s'}
      (starts : first.evaluateNumber s.store "from_to" = .ok x)
      (sets : start = s.assign line counter (.number x))
      (reaches : Reaches budget (.rounds (.counting line counter last) body budget.rounds)
        (start.state.passed line) stage log s') :
      Reaches budget (.statement (.loopFromTo line counter first last body)) s stage
        (start.frames ++ start.state.frame line
          (.loopFromTo (Operator.lessEq.applied counter last.text)) :: log) s'
  | function {line name params body s stage log s'}
      (reaches : Reaches budget (.block body) s stage log s') :
      Reaches budget (.statement (.function line name params body)) s stage log s'
  | first {n ns s stage log s'} (reaches : Reaches budget (.statement n) s stage log s') :
      Reaches budget (.block (n :: ns)) s stage log s'
  | next {n ns s first stage log s'} (runs : Runs budget (.statement n) s first)
      (flow : first.flow = .next) (reaches : Reaches budget (.block ns) first.state stage log s') :
      Reaches budget (.block (n :: ns)) s stage (first.frames ++ log) s'
  | check {guard body left s} :
      Reaches budget (.rounds guard body left) s (.check guard left) [] s
  | round {guard body left s stage log s'} (checks : guard.loop.test s.store = .ok true)
      (reaches : Reaches budget (.block body) (s.passed guard.loop.line) stage log s') :
      Reaches budget (.rounds guard body (left + 1)) s stage (guard.check s true :: log) s'
  | advance {guard body left s round} (checks : guard.loop.test s.store = .ok true)
      (runs : Runs budget (.block body) (s.passed guard.loop.line) round)
      (flow : round.flow = .next) :
      Reaches budget (.rounds guard body (left + 1)) s (.advance guard)
        (guard.check s true :: round.frames) round.state
  | again {guard body left s round step stage log s'}
      (checks : guard.loop.test s.store = .ok true)
      (runs : Runs budget (.block body) (s.passed guard.loop.line) round)
      (flow : round.flow = .next) (advances : guard.loop.advance round.state = .ok step)
      (reaches : Reaches budget (.rounds guard body left) step.state stage log s') :
      Reaches budget (.rounds guard body (left + 1)) s stage
        (guard.check s true :: round.frames ++ step.frames ++ log) s'
  | ended {code s r} (runs : Runs budget code s r) :
      Reaches budget code s .ended r.frames r.state

namespace Code

/-- The run comes to a stage whose own step halts it. -/
def Halts (budget : Budget) (code : Code) (s : State) (halt : Halt) : Prop :=
  ∃ stage log s', Reaches budget code s stage log s' ∧ stage.Halts budget s' halt

/-- The rules say what running the code gives. -/
def Explains (budget : Budget) (code : Code) (s : State) : Except Halt Run → Prop
  | .ok r => Runs budget code s r
  | .error halt => code.Halts budget s halt

variable {budget : Budget} {code outer : Code} {s t : State}

namespace Explains

/-- A step that may meet a fault, which is then the fault of the code. -/
lemma bind_haltOn {α : Type} {x : Except Fault α} {f : α → Except Halt Run}
    (fails : ∀ cause, x = .error cause → code.Halts budget s (.fault cause))
    (goes : ∀ a, x = .ok a → Explains budget code s (f a)) :
    Explains budget code s (haltOn x >>= f) := by
  cases hx : x with
  | error cause => exact fails cause hx
  | ok a => exact goes a hx

/-- A code inside another one. Where it halts, the outer one does. -/
lemma bind_run {x : Except Halt Run} {f : Run → Except Halt Run}
    (inner : Explains budget code s x)
    (lift : ∀ {stage log s'}, Reaches budget code s stage log s' →
      ∃ log', Reaches budget outer t stage log' s')
    (goes : ∀ r, Runs budget code s r → Explains budget outer t (f r)) :
    Explains budget outer t (x >>= f) := by
  cases hx : x with
  | error halt =>
    rw [hx] at inner
    obtain ⟨stage, log, s', reaches, halts⟩ := inner
    obtain ⟨log', reaches'⟩ := lift reaches
    exact ⟨stage, log', s', reaches', halts⟩
  | ok r =>
    rw [hx] at inner
    exact goes r inner

/-- The rounds of a loop are explained when its body is. -/
lemma rounds {body : List Node}
    (h : ∀ s, Explains budget (.block body) s ((block body).run budget s)) (guard : Guard) :
    ∀ left s, Explains budget (.rounds guard body left) s
      ((Code.rounds guard body left).run budget s)
  | 0, s => by
    rw [run_rounds_zero]
    refine bind_haltOn (fun cause fails => ⟨_, _, _, .check, .check fails⟩) fun result checks => ?_
    cases result with
    | false => exact Runs.stop checks
    | true =>
      -- no round is left for a condition that holds
      exact ⟨_, _, _, .check, .overrun checks⟩
  | left + 1, s => by
    rw [run_rounds_succ]
    refine bind_haltOn (fun cause fails => ⟨_, _, _, .check, .check fails⟩) fun result checks => ?_
    cases result with
    | false => exact Runs.stop checks
    | true =>
      refine bind_run (h _) (fun reaches => ⟨_, .round checks reaches⟩) fun round runs => ?_
      cases flow : round.flow with
      | returned => exact Runs.cut checks runs flow
      | next =>
        refine bind_haltOn
          (fun cause fails => ⟨_, _, _, .advance checks runs flow, .advance fails⟩)
          fun step advances => ?_
        exact bind_run (rounds h guard left step.state)
          (fun reaches => ⟨_, .again checks runs flow advances reaches⟩)
          fun rest goes => Runs.again checks runs flow advances goes

lemma branch {line : Option UInt32} {condition : Node} {consequent : List Node}
    {alternate : Option (List Node)}
    (h : ∀ result s, Explains budget (.block (Node.chosen result consequent alternate)) s
      ((block (Node.chosen result consequent alternate)).run budget s)) (s : State) :
    Explains budget (.statement (.branch line condition consequent alternate)) s
      ((statement (.branch line condition consequent alternate)).run budget s) := by
  rw [run_branch]
  refine bind_haltOn (fun cause fails => ⟨_, _, _, .statement, .branch fails⟩)
    fun result checks => ?_
  exact bind_run (h result _) (fun reaches => ⟨_, .branch checks reaches⟩)
    fun inner runs => Runs.branch checks runs

end Explains

end Code

namespace Node

open Code (Explains)

variable {budget : Budget}

mutual

/-- What running a statement gives is what the rules say. -/
lemma explains_run : ∀ (n : Node) (s : State),
    Explains budget (.statement n) s ((Code.statement n).run budget s)
  | declaration line name value, s => by
    rw [Code.run_declaration]
    exact .bind_haltOn (fun cause fails => ⟨_, _, _, .statement, .declaration fails⟩)
      fun v evaluates => Runs.declaration evaluates
  | print line value, s => by
    rw [Code.run_print]
    exact .bind_haltOn (fun cause fails => ⟨_, _, _, .statement, .print fails⟩)
      fun action prints => Runs.print prints
  -- the recursion is on the statements as they are written, so a missing part has its own case
  | branch line condition consequent none, s => by
    refine .branch (fun result => ?_) s
    cases result with
    | true => exact explains_runAll consequent
    | false => exact explains_runAll []
  | branch line condition consequent (some alternate), s => by
    refine .branch (fun result => ?_) s
    cases result with
    | true => exact explains_runAll consequent
    | false => exact explains_runAll alternate
  | loopUntil line condition body, s => by
    rw [Code.run_loopUntil]
    exact .bind_run (.rounds (explains_runAll body) _ _ _) (fun reaches => ⟨_, .loopUntil reaches⟩)
      fun inner runs => Runs.loopUntil runs
  | loopFromTo line counter first last body, s => by
    rw [Code.run_loopFromTo]
    refine .bind_haltOn (fun cause fails => ⟨_, _, _, .statement, .loopFromTo fails⟩)
      fun x starts => ?_
    exact .bind_run (.rounds (explains_runAll body) _ _ _)
      (fun reaches => ⟨_, .loopFromTo starts rfl reaches⟩)
      fun inner runs => Runs.loopFromTo starts rfl runs
  | function line name params body, s => by
    rw [Code.run_function]
    exact .bind_run (explains_runAll body s) (fun reaches => ⟨_, .function reaches⟩)
      fun inner runs => Runs.function runs
  | ret line value, s => by
    rw [Code.run_ret]
    exact Runs.ret
  | expression .., s => ⟨_, _, _, .statement, .misplaced rfl⟩
  | identifier .., s => ⟨_, _, _, .statement, .misplaced rfl⟩
  | number .., s => ⟨_, _, _, .statement, .misplaced rfl⟩
  | string .., s => ⟨_, _, _, .statement, .misplaced rfl⟩
  | boolean .., s => ⟨_, _, _, .statement, .misplaced rfl⟩
  | length .., s => ⟨_, _, _, .statement, .misplaced rfl⟩
  | substring .., s => ⟨_, _, _, .statement, .misplaced rfl⟩
  | unsupported .., s => ⟨_, _, _, .statement, .misplaced rfl⟩

/-- What running statements gives is what the rules say. -/
lemma explains_runAll : ∀ (ns : List Node) (s : State),
    Explains budget (.block ns) s ((Code.block ns).run budget s)
  | [], s => by
    rw [Code.run_nil]
    exact Runs.nil
  | n :: ns, s => by
    rw [Code.run_cons]
    refine .bind_run (explains_run n s) (fun reaches => ⟨_, .first reaches⟩) fun first runs => ?_
    cases flow : first.flow with
    | returned => exact Runs.returned runs flow
    | next =>
      exact .bind_run (explains_runAll ns first.state)
        (fun reaches => ⟨_, .next runs flow reaches⟩) fun rest goes => Runs.next runs flow goes

end

end Node

namespace Code

variable {budget : Budget} {code : Code} {s : State}

/-- What running a code gives is what the rules say. -/
lemma explains_run (budget : Budget) (code : Code) (s : State) :
    Explains budget code s (code.run budget s) := by
  cases code with
  | statement n => exact n.explains_run s
  | block ns => exact Node.explains_runAll ns s
  | rounds guard body left => exact .rounds (Node.explains_runAll body) guard left s

/-- A code ends well exactly when the rules say so. -/
theorem ends_iff {r : Run} : code.run budget s = .ok r ↔ Runs budget code s r := by
  refine ⟨fun h => ?_, Runs.run_eq⟩
  have explains := explains_run budget code s
  rwa [h] at explains

end Code

lemma Stage.Halts.run_eq {budget n s halt} (halts : Stage.Halts budget (.statement n) s halt) :
    (Code.statement n).run budget s = .error halt := by
  cases halts with
  | declaration fails =>
    rw [Code.run_declaration, fails]
    rfl
  | print fails =>
    rw [Code.run_print, fails]
    rfl
  | branch fails =>
    rw [Code.run_branch, fails]
    rfl
  | loopFromTo fails =>
    rw [Code.run_loopFromTo, fails]
    rfl
  | misplaced expression => cases n <;> first | rfl | cases expression

/-- A code does not end well when its run comes to a stage whose own step halts. -/
lemma Reaches.run_eq {budget code s stage log s' halt}
    (reaches : Reaches budget code s stage log s') (halts : stage.Halts budget s' halt) :
    code.run budget s = .error halt := by
  induction reaches with
  | statement => exact halts.run_eq
  | branch checks _ ih => rw [Code.run_branch, checks, haltOn_ok, ok_bind, ih halts, error_bind]
  | loopUntil _ ih => rw [Code.run_loopUntil, ih halts, error_bind]
  | loopFromTo starts sets _ ih =>
    subst sets
    rw [Code.run_loopFromTo, starts, haltOn_ok, ok_bind]
    dsimp only
    rw [ih halts, error_bind]
  | function _ ih => rw [Code.run_function, ih halts, error_bind]
  | first _ ih => rw [Code.run_cons, ih halts, error_bind]
  | next runs flow _ ih =>
    rw [Code.run_cons, runs.run_eq, ok_bind, flow]
    dsimp only
    rw [ih halts, error_bind]
  | @check guard body left s =>
    cases halts with
    | check fails =>
      cases left with
      | zero => rw [Code.run_rounds_zero, fails, haltOn_error, error_bind]
      | succ left => rw [Code.run_rounds_succ, fails, haltOn_error, error_bind]
    | overrun checks => rw [Code.run_rounds_zero, checks, haltOn_ok, ok_bind, if_pos rfl]
  | round checks _ ih =>
    rw [Code.run_rounds_succ, checks, haltOn_ok, ok_bind, if_pos rfl, ih halts, error_bind]
  | advance checks runs flow =>
    cases halts with
    | advance fails =>
      rw [Code.run_rounds_succ, checks, haltOn_ok, ok_bind, if_pos rfl, runs.run_eq, ok_bind, flow]
      dsimp only
      rw [fails, haltOn_error, error_bind]
  | again checks runs flow advances _ ih =>
    rw [Code.run_rounds_succ, checks, haltOn_ok, ok_bind, if_pos rfl, runs.run_eq, ok_bind, flow]
    dsimp only
    rw [advances, haltOn_ok, ok_bind, ih halts, error_bind]
  | ended _ => cases halts

/-- A code halts exactly when its run comes to a stage whose own step halts. -/
theorem Code.halts_iff {budget : Budget} {code : Code} {s : State} {halt : Halt} :
    code.run budget s = .error halt ↔ code.Halts budget s halt := by
  constructor
  · intro h
    have explains := explains_run budget code s
    rwa [h] at explains
  · rintro ⟨stage, log, s', reaches, halts⟩
    exact reaches.run_eq halts

namespace Program

variable {p : Program} {budget : Budget} {clock : Clock}

/-- The traces of a program are its runs, with their times. -/
theorem trace_eq_ok_iff {t : Trace} : p.trace budget clock = .ok t ↔
    ∃ r, Runs budget (.block p.statements) .initial r ∧ ⟨Frame.stampAll clock r.frames⟩ = t := by
  rw [trace_eq, bind_eq_ok_iff]
  constructor
  · rintro ⟨r, ends, heq⟩
    exact ⟨r, Code.ends_iff.1 ends, Except.ok.inj heq⟩
  · rintro ⟨r, runs, rfl⟩
    exact ⟨r, Code.ends_iff.2 runs, rfl⟩

/-- A program has no trace for the reason that its run comes to. -/
theorem trace_eq_error_iff {halt : Halt} :
    p.trace budget clock = .error halt ↔ (Code.block p.statements).Halts budget .initial halt := by
  rw [← Code.halts_iff, trace_eq, bind_eq_error_iff]
  constructor
  · rintro (fails | ⟨r, -, fails⟩)
    · exact fails
    · cases fails
  · exact .inl

end Program

end Playback
