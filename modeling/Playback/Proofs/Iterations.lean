import Playback.Proofs.Negation
import Playback.Proofs.Stages

/-!
# Iterations

`Node.starts` lists the states in which a loop runs its body, also where the loop does not end, or not
well. The loop depends on its body in these states only (`Code.run_rounds_congr`), and what it emits is
put together from the rounds that begin in them (`Runs.rounds_frames`).

Main statement: whatever the body does, it runs in states in which the condition to go on holds, and
where the loop ends without a return, this condition does not hold (`Node.run_loop`). The condition is
checked in its negated form, but said here as it is written.
-/

namespace Playback

/-- The states in which a loop runs its body, with `left` rounds to go. -/
def Guard.starts (guard : Guard) (budget : Budget) (body : List Node) : Nat → State → List State
  | 0, _ => []
  | left + 1, s =>
    match guard.loop.test s.store with
    | .ok true =>
      s.passed guard.loop.line ::
        match Node.runAll budget body (s.passed guard.loop.line) with
        | .ok ⟨_, .next, s'⟩ =>
          match guard.loop.advance s' with
          | .ok step => guard.starts budget body left step.state
          | .error _ => []
        | _ => []
    | _ => []

/-- The states in which a loop runs its body. -/
def Node.starts (budget : Budget) : Node → State → List State
  | loopUntil line condition body, s =>
    (Guard.conditional line condition).starts budget body budget.rounds (s.passed line)
  | loopFromTo line counter first last body, s =>
    match first.evaluateNumber s.store "from_to" with
    | .ok x =>
      (Guard.counting line counter last).starts budget body budget.rounds
        ((s.assign line counter (.number x)).state.passed line)
    | .error _ => []
  | _, _ => []

/-- The frames of the round that begins in a state: the check, those of the body, and those of what is
done behind it. -/
def Guard.round (guard : Guard) (budget : Budget) (body : List Node) (start : State) :
    List (Frame Unit) :=
  .plain start.lastLine () (.check guard.loop.condition true) ::
    match Node.runAll budget body start with
    | .ok round =>
      round.frames ++
        match guard.loop.advance round.state with
        | .ok step => step.frames
        | .error _ => []
    | .error _ => []

/-! ## The rounds of a loop -/

section

variable {budget : Budget} {guard : Guard} {body : List Node} {left : Nat} {s : State} {r : Run}

lemma Guard.starts_of_stop (checks : guard.loop.test s.store = .ok false) :
    guard.starts budget body left s = [] := by
  cases left with
  | zero => rfl
  | succ left => rw [starts, checks]

lemma Guard.starts_of_again {round step : Run} (checks : guard.loop.test s.store = .ok true)
    (runs : Runs budget (.block body) (s.passed guard.loop.line) round) (flow : round.flow = .next)
    (advances : guard.loop.advance round.state = .ok step) :
    guard.starts budget body (left + 1) s =
      s.passed guard.loop.line :: guard.starts budget body left step.state := by
  obtain ⟨frames, _, s'⟩ := round
  cases flow
  have ends : Node.runAll budget body (s.passed guard.loop.line) = .ok ⟨frames, .next, s'⟩ :=
    runs.run_eq
  rw [starts, checks]
  dsimp only
  rw [ends]
  dsimp only
  rw [advances]

/-- A state in which a loop runs its body: the first one, or one behind the first round. -/
lemma Guard.mem_starts_iff {t : State} : t ∈ guard.starts budget body (left + 1) s ↔
    guard.loop.test s.store = .ok true ∧ (t = s.passed guard.loop.line ∨
      ∃ round step, Runs budget (.block body) (s.passed guard.loop.line) round ∧ round.flow = .next ∧
        guard.loop.advance round.state = .ok step ∧ t ∈ guard.starts budget body left step.state) := by
  constructor
  · intro mem
    unfold starts at mem
    split at mem
    · next checks =>
      refine ⟨checks, (List.mem_cons.1 mem).imp_right fun mem => ?_⟩
      split at mem
      · next frames s' ends =>
        split at mem
        · next step advances => exact ⟨⟨frames, .next, s'⟩, step, Code.ends_iff.1 ends, rfl, advances, mem⟩
        · cases mem
      · cases mem
    · cases mem
  · rintro ⟨checks, rfl | ⟨round, step, runs, flow, advances, mem⟩⟩
    · rw [starts, checks]
      exact List.mem_cons_self
    · rw [starts_of_again checks runs flow advances]
      exact List.mem_cons_of_mem _ mem

/-- A loop with another body does the same when the bodies do the same wherever the loop runs them. -/
theorem Code.run_rounds_congr {body' : List Node}
    (h : ∀ t ∈ guard.starts budget body left s, Node.runAll budget body' t = Node.runAll budget body t) :
    (rounds guard body' left).run budget s = (rounds guard body left).run budget s := by
  induction left generalizing s with
  | zero => rw [run_rounds_zero, run_rounds_zero]
  | succ left ih =>
    rw [run_rounds_succ, run_rounds_succ]
    cases checks : guard.loop.test s.store with
    | error cause => rfl
    | ok result =>
      cases result with
      | false => rfl
      | true =>
        have here : (block body').run budget (s.passed guard.loop.line) =
            (block body).run budget (s.passed guard.loop.line) :=
          h _ (Guard.mem_starts_iff.2 ⟨checks, .inl rfl⟩)
        simp only [haltOn_ok, ok_bind, if_true]
        rw [here]
        cases ends : (block body).run budget (s.passed guard.loop.line) with
        | error halt => rfl
        | ok round =>
          cases flow : round.flow with
          | returned => simp only [ok_bind, flow]
          | next =>
            simp only [ok_bind, flow]
            cases advances : guard.loop.advance round.state with
            | error cause => rfl
            | ok step =>
              rw [haltOn_ok, ok_bind, ok_bind, ih fun t mem => h t (Guard.mem_starts_iff.2
                ⟨checks, .inr ⟨round, step, ends_iff.1 ends, flow, advances, mem⟩⟩)]

/-- A body runs where the loop goes on. -/
lemma Guard.test_of_mem_starts {t : State} (mem : t ∈ guard.starts budget body left s) :
    guard.loop.test t.store = .ok true := by
  induction left generalizing s with
  | zero => cases mem
  | succ left ih =>
    obtain ⟨checks, rfl | ⟨_, _, _, _, _, behind⟩⟩ := mem_starts_iff.1 mem
    · exact checks
    · exact ih behind

/-- A loop that ends without a return ends where it does not go on. -/
lemma Runs.test_of_next (runs : Runs budget (.rounds guard body left) s r) (flow : r.flow = .next) :
    guard.loop.test r.state.store = .ok false := by
  induction left generalizing s r with
  | zero =>
    cases runs with
    | stop checks => exact checks
  | succ left ih =>
    cases runs with
    | stop checks => exact checks
    | cut _ _ returned => cases returned.symm.trans flow
    | @again _ _ _ _ _ _ rest _ _ _ _ goes => exact ih (r := rest) goes flow

/-- The frames of a loop that ends without a return are those of its rounds, and its last check. -/
theorem Runs.rounds_frames (runs : Runs budget (.rounds guard body left) s r) (flow : r.flow = .next) :
    r.frames = (guard.starts budget body left s).flatMap (guard.round budget body) ++
      [.plain r.state.lastLine () (.check guard.loop.condition false)] := by
  have stops {left : Nat} {s : State} (checks : guard.loop.test s.store = .ok false) :
      [guard.check s false] = (guard.starts budget body left s).flatMap (guard.round budget body) ++
        [.plain (s.passed guard.loop.line).lastLine () (.check guard.loop.condition false)] := by
    rw [Guard.starts_of_stop checks]
    rfl
  induction left generalizing s r with
  | zero =>
    cases runs with
    | stop checks => exact stops checks
  | succ left ih =>
    cases runs with
    | stop checks => exact stops checks
    | cut _ _ returned => cases returned.symm.trans flow
    | @again _ _ _ _ round step rest checks runs next advances goes =>
      have ends : Node.runAll budget body (s.passed guard.loop.line) = .ok round := runs.run_eq
      have first : guard.round budget body (s.passed guard.loop.line) =
          guard.check s true :: round.frames ++ step.frames := by
        rw [Guard.round, ends]
        dsimp only
        rw [advances]
        rfl
      rw [Run.after_frames, ih goes flow, Guard.starts_of_again checks runs next advances,
        List.flatMap_cons, first, List.append_assoc, List.append_assoc, List.append_assoc]
      rfl

end

/-! ## Conditions -/

lemma Store.counter_eq_ok_iff {store : Store} {name : String} {x : Float} :
    store.counter name = .ok x ↔ store.get? name = some (.number x) := by
  unfold counter read
  cases store.get? name with
  | none => simp
  | some v => cases v <;> simp

/-- A counting loop goes on while the counter is a number, and at most the bound. -/
lemma Guard.test_counting_eq_ok_iff {line : Option UInt32} {counter : String} {last : Node}
    {store : Store} {result : Bool} :
    (counting line counter last).loop.test store = .ok result ↔
      ∃ x bound, store.get? counter = some (.number x) ∧
        last.evaluateNumber store "from_to" = .ok bound ∧ decide (x ≤ bound) = result := by
  simp only [Guard.loop, Guard.test, bind_eq_ok_iff, Store.counter_eq_ok_iff, Except.ok.injEq]
  constructor
  · rintro ⟨x, hx, bound, hbound, heq⟩
    exact ⟨x, bound, hx, hbound, heq⟩
  · rintro ⟨x, bound, hx, hbound, heq⟩
    exact ⟨x, hx, bound, hbound, heq⟩

/-! ## Whole loops -/

lemma State.frame_assign (s : State) (line : Option UInt32) (name : String) (value : Value)
    (action : Action) : (s.assign line name value).state.frame line action = s.frame line action := by
  cases line <;> rfl

namespace Node

variable {budget : Budget} {line : Option UInt32} {body body' : List Node} {s : State} {r : Run}

lemma run_loopUntil_congr {condition : Node}
    (h : ∀ t ∈ (loopUntil line condition body).starts budget s,
      runAll budget body' t = runAll budget body t) :
    (loopUntil line condition body').run budget s = (loopUntil line condition body).run budget s := by
  show (Code.statement (loopUntil line condition body')).run budget s =
    (Code.statement (loopUntil line condition body)).run budget s
  rw [Code.run_loopUntil, Code.run_loopUntil, Code.run_rounds_congr h]

lemma run_loopFromTo_congr {counter : String} {first last : Node}
    (h : ∀ t ∈ (loopFromTo line counter first last body).starts budget s,
      runAll budget body' t = runAll budget body t) :
    (loopFromTo line counter first last body').run budget s =
      (loopFromTo line counter first last body).run budget s := by
  show (Code.statement (loopFromTo line counter first last body')).run budget s =
    (Code.statement (loopFromTo line counter first last body)).run budget s
  rw [Code.run_loopFromTo, Code.run_loopFromTo]
  cases started : first.evaluateNumber s.store "from_to" with
  | error cause => rfl
  | ok x =>
    rw [starts, started] at h
    simp only [haltOn_ok, ok_bind, Code.run_rounds_congr h]

/-- A loop that ends without a return ends where its condition to end holds, and its frames are those of
the rounds that begin in its starts. -/
lemma of_run_loopUntil {condition : Node} (ends : (loopUntil line condition body).run budget s = .ok r)
    (flow : r.flow = .next) :
    let guard := Guard.conditional line condition
    condition.holds r.state.store = .ok true ∧
      r.frames = Frame.closed (s.frame line (.loopUntil guard.loop.condition) ::
        (((loopUntil line condition body).starts budget s).flatMap (guard.round budget body) ++
          [.plain r.state.lastLine () (.check guard.loop.condition false)])) (.endLoop .conditional) := by
  intro guard
  have runs : Runs budget (.statement (loopUntil line condition body)) s r := Code.ends_iff.1 ends
  cases runs with
  | loopUntil runs =>
    refine ⟨holds_of_negated (runs.test_of_next flow), ?_⟩
    rw [starts, Run.closed_frames, Run.after_frames, runs.rounds_frames flow]
    rfl

/-- A loop that ends without a return ends where its counter is past the bound, and its frames are those
of the rounds that begin in its starts. -/
lemma of_run_loopFromTo {counter : String} {first last : Node}
    (ends : (loopFromTo line counter first last body).run budget s = .ok r) (flow : r.flow = .next) :
    let guard := Guard.counting line counter last
    (∃ x bound, r.state.store.get? counter = some (.number x) ∧
      last.evaluateNumber r.state.store "from_to" = .ok bound ∧ ¬ x ≤ bound) ∧
    ∃ x, first.evaluateNumber s.store "from_to" = .ok x ∧
      r.frames = Frame.closed (s.frame line (.set counter .number (.number x)) ::
        s.frame line (.loopFromTo guard.loop.condition) ::
        (((loopFromTo line counter first last body).starts budget s).flatMap (guard.round budget body) ++
          [.plain r.state.lastLine () (.check guard.loop.condition false)])) (.endLoop .counting) := by
  intro guard
  have runs : Runs budget (.statement (loopFromTo line counter first last body)) s r :=
    Code.ends_iff.1 ends
  cases runs with
  | @loopFromTo _ _ _ _ _ _ x start inner begins sets runs =>
    subst sets
    obtain ⟨y, bound, hy, hbound, le⟩ := Guard.test_counting_eq_ok_iff.1 (runs.test_of_next flow)
    refine ⟨⟨y, bound, hy, hbound, of_decide_eq_false le⟩, x, begins, ?_⟩
    rw [starts, begins, Run.closed_frames, Run.after_frames, runs.rounds_frames flow,
      State.frame_assign]
    rfl

end Node

/-- Under every budget and from every state, a loop runs its body where the condition to end, as it is
written, does not hold, or where the counter is a number that is at most the bound. If it ends without a
return, the condition holds then, or the counter is a number that is not at most the bound.

The states named are those in which the loop runs its body: any body that does the same in them has the
same effect, and a loop that ends without a return has the frames of one round for each of them, in
order. Machines execute statements just so. -/
theorem Node.run_loop (budget : Budget) (line : Option UInt32) (body : List Node) (s : State) :
    (∀ condition,
      let loop := loopUntil line condition
      let guard := Guard.conditional line condition
      (∀ t ∈ (loop body).starts budget s, condition.holds t.store = .ok false) ∧
      (∀ r, (loop body).run budget s = .ok r → r.flow = .next →
        condition.holds r.state.store = .ok true ∧
        r.frames = Frame.closed (s.frame line (.loopUntil guard.loop.condition) ::
          (((loop body).starts budget s).flatMap (guard.round budget body) ++
            [.plain r.state.lastLine () (.check guard.loop.condition false)])) (.endLoop .conditional)) ∧
      ∀ body', (∀ t ∈ (loop body).starts budget s, runAll budget body' t = runAll budget body t) →
        (loop body').run budget s = (loop body).run budget s) ∧
    (∀ counter first last,
      let loop := loopFromTo line counter first last
      let guard := Guard.counting line counter last
      (∀ t ∈ (loop body).starts budget s,
        ∃ x bound, t.store.get? counter = some (.number x) ∧
          last.evaluateNumber t.store "from_to" = .ok bound ∧ x ≤ bound) ∧
      (∀ r, (loop body).run budget s = .ok r → r.flow = .next →
        (∃ x bound, r.state.store.get? counter = some (.number x) ∧
          last.evaluateNumber r.state.store "from_to" = .ok bound ∧ ¬ x ≤ bound) ∧
        ∃ x, first.evaluateNumber s.store "from_to" = .ok x ∧
          r.frames = Frame.closed (s.frame line (.set counter .number (.number x)) ::
            s.frame line (.loopFromTo guard.loop.condition) ::
            (((loop body).starts budget s).flatMap (guard.round budget body) ++
              [.plain r.state.lastLine () (.check guard.loop.condition false)])) (.endLoop .counting)) ∧
      ∀ body', (∀ t ∈ (loop body).starts budget s, runAll budget body' t = runAll budget body t) →
        (loop body').run budget s = (loop body).run budget s) ∧
    ∀ (n : Node) (m : Machine), m.state = s → n.exec budget m = m.follow (n.run budget s) := by
  refine ⟨fun condition => ⟨fun t mem => ?_, fun r ends flow => of_run_loopUntil ends flow,
      fun body' same => run_loopUntil_congr same⟩,
    fun counter first last => ⟨fun t mem => ?_, fun r ends flow => of_run_loopFromTo ends flow,
      fun body' same => run_loopFromTo_congr same⟩,
    fun n m here => here ▸ Code.exec_eq budget (.statement n) m⟩
  · exact holds_of_negated (Guard.test_of_mem_starts mem)
  · cases started : first.evaluateNumber s.store "from_to" with
    | error cause =>
      rw [starts, started] at mem
      cases mem
    | ok x =>
      rw [starts, started] at mem
      obtain ⟨x, bound, hx, hbound, le⟩ :=
        Guard.test_counting_eq_ok_iff.1 (Guard.test_of_mem_starts mem)
      exact ⟨x, bound, hx, hbound, of_decide_eq_true le⟩

/-- Sets `n` to the number below it. -/
def Node.lowers : Node :=
  .declaration none "n" (.expression none (some (.identifier none "n")) .sub (some (.number none 1)))

/-- From 5 on, `n` is lowered three times until it is 2, which nine frames show, and three times until a
counter is past it. -/
theorem Node.run_loop_lowers :
    let s : State := ⟨Store.empty.set "n" (.number 5), 0⟩
    let atMostTwo := expression none (some (identifier none "n")) .lessEq (some (number none 2))
    let descent := loopUntil (some 1) atMostTwo [lowers]
    let meeting := loopFromTo (some 1) "i" (number none 1) (identifier none "n") [lowers]
    ((descent.starts (.limit 3) s).length = 3 ∧
      (∀ t ∈ descent.starts (.limit 3) s, atMostTwo.holds t.store = .ok false) ∧
      ∃ r, descent.run (.limit 3) s = .ok r ∧ atMostTwo.holds r.state.store = .ok true ∧
        r.frames.length = 9) ∧
    (meeting.starts (.limit 3) s).length = 3 ∧
      ∃ r, meeting.run (.limit 3) s = .ok r ∧
        ∃ x bound, r.state.store.get? "i" = some (.number x) ∧
          (identifier none "n").evaluateNumber r.state.store "from_to" = .ok bound ∧ ¬ x ≤ bound := by
  intro s atMostTwo descent meeting
  obtain ⟨conditional, counting, -⟩ := Node.run_loop (.limit 3) (some 1) [lowers] s
  obtain ⟨starts, ends, -⟩ := conditional atMostTwo
  obtain ⟨-, ends', -⟩ := counting "i" (number none 1) (identifier none "n")
  exact ⟨⟨rfl, starts, _, rfl, (ends _ rfl rfl).1, rfl⟩, rfl, _, rfl, (ends' _ rfl rfl).1⟩

end Playback
