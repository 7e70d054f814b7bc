import Playback.Proofs.Forest
import Playback.Proofs.Replacement

/-!
# Lines and times

Lines are carried along and shown, and a run never looks at them; the clock is read when the run is
over. `Node.lineless` and `Frame.bare` leave out lines and times, and `Alike` relates what two
computations end with: both with a result, or both for the same cause, where the line in the fault of
too many rounds may be another.

Main statement: two programs that are the same but for the lines of their nodes have the same trace but
for lines and times, under every budget and whatever the clocks are, or have none for the same cause
(`Program.trace_alike`).
-/

namespace Playback

/-! ## Without lines -/

namespace Node

mutual

/-- The node with no line at any of its nodes. -/
def lineless : Node → Node
  | declaration _ name value => declaration none name value.lineless
  | print _ value => print none value.lineless
  | branch _ condition consequent alternate =>
    branch none condition.lineless (linelessAll consequent) (linelessAlternate alternate)
  | loopUntil _ condition body => loopUntil none condition.lineless (linelessAll body)
  | loopFromTo _ counter first last body =>
    loopFromTo none counter first.lineless last.lineless (linelessAll body)
  | function _ name params body => function none name params (linelessAll body)
  | ret _ value => ret none value.lineless
  | expression _ left op right => expression none (linelessOperand left) op (linelessOperand right)
  | identifier _ name => identifier none name
  | number _ value => number none value
  | string _ value => string none value
  | boolean _ value => boolean none value
  | length _ source => length none source
  | substring _ source first last => substring none source first.lineless last.lineless
  | unsupported _ kind => unsupported none kind

/-- Nodes with no lines. -/
def linelessAll : List Node → List Node
  | [] => []
  | n :: ns => n.lineless :: linelessAll ns

/-- An operand with no lines, if there is one. -/
def linelessOperand : Option Node → Option Node
  | none => none
  | some n => some n.lineless

/-- The statements of an alternative with no lines, if there is one. -/
def linelessAlternate : Option (List Node) → Option (List Node)
  | none => none
  | some ns => some (linelessAll ns)

end

end Node

/-- The program with no lines. -/
def Program.lineless (p : Program) : Program :=
  ⟨Node.linelessAll p.statements⟩

/-- The fault with no line. -/
def Fault.lineless : Fault → Fault
  | tooManyRounds limit _ => tooManyRounds limit 0
  | cause => cause

/-- The halt with no line. -/
def Halt.lineless : Halt → Halt
  | fault cause => fault cause.lineless
  | unfinished => unfinished

namespace Frame

variable {σ τ : Type}

mutual

/-- The frame without its line and its time, and so the frames inside it. -/
def bare : Frame τ → Frame Unit
  | plain _ _ action => plain 0 () action
  | define _ _ name params body => define 0 () name params (bareOf body)

/-- The frames without their lines and their times. -/
def bareOf : List (Frame τ) → List (Frame Unit)
  | [] => []
  | f :: fs => bare f :: bareOf fs

end

@[simp] lemma operation_bare (f : Frame τ) : f.bare.operation = f.operation := by
  cases f <;> rfl

@[simp] lemma description_bare (f : Frame τ) : f.bare.description = f.description := by
  cases f <;> rfl

@[simp] lemma bareOf_nil : bareOf ([] : List (Frame τ)) = [] := rfl

@[simp] lemma bareOf_cons (f : Frame τ) (fs : List (Frame τ)) :
    bareOf (f :: fs) = f.bare :: bareOf fs := rfl

@[simp] lemma bare_plain (line : UInt32) (stamp : τ) (action : Action) :
    bare (plain line stamp action) = plain 0 () action := rfl

@[simp] lemma bare_define (line : UInt32) (stamp : τ) (name : String) (params : List String)
    (body : List (Frame τ)) :
    bare (define line stamp name params body) = define 0 () name params (bareOf body) := rfl

@[simp] lemma bareOf_append (fs gs : List (Frame τ)) : bareOf (fs ++ gs) = bareOf fs ++ bareOf gs := by
  induction fs with
  | nil => rfl
  | cons f fs ih => rw [List.cons_append, bareOf_cons, bareOf_cons, ih, List.cons_append]

@[simp] lemma bareOf_closed (fs : List (Frame Unit)) (action : Action) :
    bareOf (closed fs action) = bareOf fs ++ [plain 0 () action] := by
  rw [closed, bareOf_append]
  rfl

@[simp] lemma bareOf_stampAll (clock : Clock) (fs : List (Frame σ)) :
    bareOf (stampAll clock fs) = bareOf fs := by
  induction fs using forest_induction generalizing clock with
  | nil => rfl
  | plain line stamp action fs ih => simp [ih]
  | define line stamp name params body fs ihbody ih => simp [ihbody, ih]

@[simp] lemma actionsOf_bareOf (fs : List (Frame σ)) : actionsOf (bareOf fs) = actionsOf fs := by
  induction fs using forest_induction with
  | nil => rfl
  | plain line stamp action fs ih => simp [ih]
  | define line stamp name params body fs ihbody ih => simp [ihbody, ih]

end Frame

/-! ## Expressions -/

namespace Node

@[simp] lemma lineless_atLine (n : Node) (line : Option UInt32) :
    (n.atLine line).lineless = n.lineless := by
  cases n <;> rfl

@[simp] lemma atLine_lineless (n : Node) : n.lineless.atLine none = n.lineless := by
  cases n <;> rfl

@[simp] lemma line_lineless (n : Node) : n.lineless.line = none := by
  cases n <;> rfl

lemma enclosed_lineless (n : Node) (parent : Operator) (onRight : Bool) (text : String) :
    n.lineless.enclosed parent onRight text = n.enclosed parent onRight text := by
  cases n <;> rfl

lemma operandText_lineless {n : Node} (ih : n.lineless.text = n.text) (parent : Operator)
    (onRight : Bool) :
    operandText parent onRight (some n.lineless) = operandText parent onRight (some n) := by
  show n.lineless.enclosed parent onRight n.lineless.text = n.enclosed parent onRight n.text
  rw [ih, enclosed_lineless]

/-- The text of an expression shows no lines. -/
lemma text_lineless : ∀ n : Node, n.lineless.text = n.text
  | declaration .. | print .. | branch .. | loopUntil .. | loopFromTo .. | function .. | ret ..
  | identifier .. | number .. | string .. | boolean .. | length .. | unsupported .. => rfl
  | expression line none op none => by
    rw [lineless, text_expression, text_expression]
    rfl
  | expression line (some l) op none => by
    have left := operandText_lineless l.text_lineless op
    rw [lineless, text_expression, text_expression]
    simp only [linelessOperand, Option.none_or, left]
  | expression line none op (some r) => by
    have right := operandText_lineless r.text_lineless op
    rw [lineless, text_expression, text_expression]
    simp only [linelessOperand, Option.some_or, right]
  | expression line (some l) op (some r) => by
    have left := operandText_lineless l.text_lineless op
    have right := operandText_lineless r.text_lineless op
    rw [lineless, text_expression, text_expression]
    simp only [linelessOperand, Option.some_or, left, right]
  | substring line source first last => by
    show "substring of " ++ source ++ " from " ++ first.lineless.text ++ " to " ++
      last.lineless.text = _
    rw [first.text_lineless, last.text_lineless]
    rfl

/-- The value of an expression depends on no lines. -/
lemma evaluate_lineless (store : Store) : ∀ n : Node, n.lineless.evaluate store = n.evaluate store
  | declaration .. | print .. | branch .. | loopUntil .. | loopFromTo .. | function .. | ret ..
  | identifier .. | number .. | string .. | boolean .. | length .. | unsupported .. => rfl
  | expression line none op none => rfl
  | expression line (some l) op none => by
    cases op with
    | not => exact congrArg (Except.map Value.negation) (l.evaluate_lineless store)
    | _ => rfl
  | expression line none op (some r) => by
    cases op with
    | not => exact congrArg (Except.map Value.negation) (r.evaluate_lineless store)
    | _ => rfl
  | expression line (some l) op (some r) => by
    have left := l.evaluate_lineless store
    have right := r.evaluate_lineless store
    show (expression none (some l.lineless) op (some r.lineless)).evaluate store = _
    cases unary : op.isUnary with
    | true =>
      cases op <;> cases unary
      rw [evaluate_not_right, evaluate_not_right, right]
    | false => rw [evaluate_binary store _ unary, evaluate_binary store _ unary, left, right]
  | substring line source first last => by
    rw [lineless, evaluate, evaluate, first.evaluate_lineless store, last.evaluate_lineless store]

lemma holds_lineless (n : Node) (store : Store) : n.lineless.holds store = n.holds store :=
  congrArg (Except.map Value.isTruthy) (n.evaluate_lineless store)

lemma evaluateNumber_lineless (n : Node) (store : Store) (context : String) :
    n.lineless.evaluateNumber store context = n.evaluateNumber store context := by
  rw [evaluateNumber, evaluateNumber, evaluate_lineless]

lemma printed_lineless (n : Node) (store : Store) : n.lineless.printed store = n.printed store := by
  have heq := n.evaluate_lineless store
  cases n with
  | identifier line name => rfl
  | _ => exact congrArg (Except.map fun v => Action.print true none v.primitive) heq

lemma lineless_wrapped (n : Node) : n.wrapped.lineless = n.lineless.wrapped := by
  rw [wrapped, wrapped, line_lineless]
  rfl

/-- A condition is negated whatever its lines are. -/
lemma negated_lineless (n : Node) : n.lineless.negated = n.negated.lineless := by
  induction n using Node.negated.induct with
  | case1 line value => rfl
  | case2 line left operand =>
    show operand.lineless.atLine none = (operand.atLine line).lineless
    rw [atLine_lineless, lineless_atLine]
  | case3 line operand =>
    show operand.lineless.atLine none = (operand.atLine line).lineless
    rw [atLine_lineless, lineless_atLine]
  | case4 line l r ihl ihr =>
    show expression none (some l.lineless.negated) .or (some r.lineless.negated) = _
    rw [ihl, ihr]
    rfl
  | case5 line l r ihl ihr =>
    show expression none (some l.lineless.negated) .and (some r.lineless.negated) = _
    rw [ihl, ihr]
    rfl
  | case6 line l op r notNot notAnd notOr flip flips =>
    show (expression none (some l.lineless) op (some r.lineless)).negated = _
    rw [negated.eq_6 _ _ _ _ notNot notAnd notOr, negated.eq_6 _ _ _ _ notNot notAnd notOr, flips]
    rfl
  | case7 line l op r notNot notAnd notOr flips =>
    show (expression none (some l.lineless) op (some r.lineless)).negated = _
    rw [negated.eq_6 _ _ _ _ notNot notAnd notOr, negated.eq_6 _ _ _ _ notNot notAnd notOr, flips]
    exact (lineless_wrapped (expression line (some l) op (some r))).symm
  | case8 n notBoolean notRight notLeft notAnd notOr notBinary =>
    rw [negated.eq_7 n notBoolean notRight notLeft notAnd notOr notBinary, lineless_wrapped]
    cases n with
    | boolean line value => exact absurd rfl (notBoolean line value)
    | expression line left op right =>
      cases left with
      | none =>
        cases right with
        | none => cases op <;> rfl
        | some r => cases op <;> first | rfl | exact absurd rfl (notRight line none r)
      | some l =>
        cases right with
        | none => cases op <;> first | rfl | exact absurd rfl (notLeft line l)
        | some r => exact absurd rfl (notBinary line l op r)
    | _ => rfl

end Node

/-! ## Computations side by side -/

/-- The computations end alike: both with a result, and the results are related, or both for the same
cause, lines aside. -/
inductive Alike {α β : Type} (R : α → β → Prop) : Except Halt α → Except Halt β → Prop where
  | ok {a b} (related : R a b) : Alike R (.ok a) (.ok b)
  | error {halt halt'} (same : halt.lineless = halt'.lineless) :
      Alike R (.error halt) (.error halt')

namespace Alike

variable {α β γ δ : Type} {R : α → β → Prop} {S : γ → δ → Prop}

lemma bind {x : Except Halt α} {y : Except Halt β} {f : α → Except Halt γ} {g : β → Except Halt δ}
    (first : Alike R x y) (rest : ∀ a b, R a b → Alike S (f a) (g b)) :
    Alike S (x >>= f) (y >>= g) := by
  cases first with
  | ok related => exact rest _ _ related
  | error same => exact .error same

/-- What the first result has is known of related results, too. -/
lemma of_ok {x : Except Halt α} {y : Except Halt β} (h : Alike R x y) {P : α → Prop}
    (holds : ∀ a, x = .ok a → P a) : Alike (fun a b => R a b ∧ P a) x y := by
  cases h with
  | ok related => exact .ok ⟨related, holds _ rfl⟩
  | error same => exact .error same

/-- A step that both computations do, and that may meet a fault. -/
lemma bind_haltOn {ε : Type} {x : Except Fault ε} {f : ε → Except Halt γ} {g : ε → Except Halt δ}
    (rest : ∀ a, Alike S (f a) (g a)) : Alike S (haltOn x >>= f) (haltOn x >>= g) := by
  cases x with
  | error cause => exact .error rfl
  | ok a => exact rest a

/-- Two computations that end like a third one. -/
lemma join {x : Except Halt α} {y : Except Halt γ} {z : Except Halt β} {T : γ → β → Prop}
    {U : α → γ → Prop} (left : Alike R x z) (right : Alike T y z)
    (both : ∀ a b c, R a b → T c b → U a c) : Alike U x y := by
  cases left with
  | ok related =>
    cases right with
    | ok related' => exact .ok (both _ _ _ related related')
  | error same =>
    cases right with
    | error same' => exact .error (same.trans same'.symm)

end Alike

/-- The runs take the same steps, at any lines. -/
structure Run.SameSteps (r r' : Run) : Prop where
  bare : Frame.bareOf r.frames = Frame.bareOf r'.frames
  flow : r.flow = r'.flow
  store : r.state.store = r'.state.store

namespace Run.SameSteps

variable {r r' : Run}

/-- Two runs that take the steps of a third one. -/
lemma join {m : Run} (left : SameSteps r m) (right : SameSteps r' m) : SameSteps r r' :=
  ⟨left.bare.trans right.bare.symm, left.flow.trans right.flow.symm, left.store.trans right.store.symm⟩

lemma step {s s' : State} (same : s.store = s'.store) (line line' : Option UInt32) (action : Action)
    (flow : Flow) : SameSteps (s.step line action flow) (s'.step line' action flow) :=
  ⟨rfl, rfl, same⟩

lemma assign {s s' : State} (same : s.store = s'.store) (line line' : Option UInt32) (name : String)
    (value : Value) : SameSteps (s.assign line name value) (s'.assign line' name value) :=
  step (congrArg (Store.set · name value) same) ..

lemma after (h : SameSteps r r') {fs fs' : List (Frame Unit)}
    (front : Frame.bareOf fs = Frame.bareOf fs') : SameSteps (r.after fs) (r'.after fs') where
  bare := by rw [Run.after_frames, Run.after_frames, Frame.bareOf_append, Frame.bareOf_append, front,
    h.bare]
  flow := h.flow
  store := h.store

lemma behind (h : SameSteps r r') (s s' : State) (line line' : Option UInt32) (action : Action) :
    SameSteps (r.after [s.frame line action]) (r'.after [s'.frame line' action]) :=
  h.after rfl

lemma closed (h : SameSteps r r') (action : Action) :
    SameSteps (r.closed action) (r'.closed action) where
  bare := by rw [Run.closed_frames, Run.closed_frames, Frame.bareOf_closed, Frame.bareOf_closed, h.bare]
  flow := h.flow
  store := h.store

end Run.SameSteps

/-! ## Runs -/

/-- The guard with no lines. -/
def Guard.lineless : Guard → Guard
  | conditional _ condition => conditional none condition.lineless
  | counting _ counter last => counting none counter last.lineless

namespace Guard

variable (guard : Guard)

lemma condition_lineless : guard.lineless.loop.condition = guard.loop.condition := by
  cases guard with
  | conditional line condition =>
    show condition.lineless.negated.text = condition.negated.text
    rw [Node.negated_lineless, Node.text_lineless]
  | counting line counter last =>
    exact congrArg (Operator.lessEq.applied counter) last.text_lineless

lemma test_lineless (store : Store) : guard.lineless.loop.test store = guard.loop.test store := by
  cases guard with
  | conditional line condition =>
    show condition.lineless.negated.holds store = condition.negated.holds store
    rw [Node.negated_lineless, Node.holds_lineless]
  | counting line counter last =>
    simp only [lineless, loop, test, last.evaluateNumber_lineless]

lemma bareOf_check (s s' : State) (result : Bool) :
    Frame.bareOf [guard.check s result] = Frame.bareOf [guard.lineless.check s' result] := by
  simp [check, State.frame, guard.condition_lineless]

lemma advance_lineless {s s' : State} (same : s.store = s'.store) :
    Alike Run.SameSteps (haltOn (guard.loop.advance s)) (haltOn (guard.lineless.loop.advance s')) := by
  cases guard with
  | conditional line condition => exact .ok ⟨rfl, rfl, same⟩
  | counting line counter last =>
    show Alike _ (haltOn (s.store.counter counter >>= _)) (haltOn (s'.store.counter counter >>= _))
    rw [← same]
    cases s.store.counter counter with
    | error cause => exact .error rfl
    | ok x => exact .ok (.assign same ..)

end Guard

namespace Node

variable {budget : Budget}

lemma chosen_lineless (result : Bool) (consequent : List Node) (alternate : Option (List Node)) :
    chosen result (linelessAll consequent) (linelessAlternate alternate) =
      linelessAll (chosen result consequent alternate) := by
  cases result with
  | true => rfl
  | false => cases alternate <;> rfl

/-- The rounds of a loop do the same when the body does. -/
lemma rounds_lineless {body body' : List Node}
    (h : ∀ {s s' : State}, s.store = s'.store → Alike Run.SameSteps
      ((Code.block body).run budget s) ((Code.block body').run budget s')) (guard : Guard) :
    ∀ left (s s' : State), s.store = s'.store → Alike Run.SameSteps
      ((Code.rounds guard body left).run budget s)
      ((Code.rounds guard.lineless body' left).run budget s')
  | 0, s, s', same => by
    rw [Code.run_rounds_zero, Code.run_rounds_zero, guard.test_lineless, ← same]
    refine .bind_haltOn fun result => ?_
    cases result with
    | false => exact .ok ⟨guard.bareOf_check s s' false, rfl, same⟩
    | true => cases budget <;> exact .error rfl
  | left + 1, s, s', same => by
    rw [Code.run_rounds_succ, Code.run_rounds_succ, guard.test_lineless, ← same]
    refine .bind_haltOn fun result => ?_
    cases result with
    | false => exact .ok ⟨guard.bareOf_check s s' false, rfl, same⟩
    | true =>
      refine .bind (h same) fun round round' steps => ?_
      have head := guard.bareOf_check s s' true
      rw [← steps.flow]
      cases round.flow with
      | returned => exact .ok (steps.after head)
      | next =>
        refine .bind (guard.advance_lineless steps.store) fun step step' advance => ?_
        refine .bind (rounds_lineless h guard left _ _ advance.store) fun rest rest' goes => ?_
        refine .ok (goes.after ?_)
        show Frame.bareOf ([guard.check s true] ++ round.frames ++ step.frames) =
          Frame.bareOf ([guard.lineless.check s' true] ++ round'.frames ++ step'.frames)
        rw [Frame.bareOf_append, Frame.bareOf_append, Frame.bareOf_append, Frame.bareOf_append, head,
          steps.bare, advance.bare]

lemma branch_lineless {line : Option UInt32} {condition : Node} {consequent : List Node}
    {alternate : Option (List Node)}
    (h : ∀ result {s s' : State}, s.store = s'.store → Alike Run.SameSteps
      ((Code.block (chosen result consequent alternate)).run budget s)
      ((Code.block (linelessAll (chosen result consequent alternate))).run budget s'))
    {s s' : State} (same : s.store = s'.store) : Alike Run.SameSteps
      ((Code.statement (.branch line condition consequent alternate)).run budget s)
      ((Code.statement (lineless (.branch line condition consequent alternate))).run budget s') := by
  rw [lineless, Code.run_branch, Code.run_branch, holds_lineless, text_lineless, ← same]
  refine .bind_haltOn fun result => ?_
  rw [chosen_lineless]
  exact .bind (h result same) fun inner inner' steps => .ok ((steps.behind ..).closed _)

mutual

/-- Without lines a statement does the same, whatever the last line was. -/
lemma run_lineless : ∀ (n : Node) {s s' : State}, s.store = s'.store → Alike Run.SameSteps
    ((Code.statement n).run budget s) ((Code.statement n.lineless).run budget s')
  | declaration line name value, s, s', same => by
    rw [lineless, Code.run_declaration, Code.run_declaration, evaluate_lineless, ← same]
    exact .bind_haltOn fun v => .ok (.assign same ..)
  | print line value, s, s', same => by
    rw [lineless, Code.run_print, Code.run_print, printed_lineless, ← same]
    exact .bind_haltOn fun action => .ok (.step same ..)
  | branch line condition consequent none, s, s', same => by
    refine branch_lineless (fun result => ?_) same
    cases result with
    | true => exact runAll_lineless consequent
    | false => exact runAll_lineless []
  | branch line condition consequent (some alternate), s, s', same => by
    refine branch_lineless (fun result => ?_) same
    cases result with
    | true => exact runAll_lineless consequent
    | false => exact runAll_lineless alternate
  | loopUntil line condition body, s, s', same => by
    rw [lineless, Code.run_loopUntil, Code.run_loopUntil, negated_lineless, text_lineless]
    have rounds := rounds_lineless (runAll_lineless body) (.conditional line condition) budget.rounds
      (s.passed line) (s'.passed none) same
    exact .bind rounds fun inner inner' steps => .ok ((steps.behind ..).closed _)
  | loopFromTo line counter first last body, s, s', same => by
    rw [lineless, Code.run_loopFromTo, Code.run_loopFromTo, evaluateNumber_lineless, text_lineless,
      ← same]
    refine .bind_haltOn fun x => ?_
    let start := s.assign line counter (.number x)
    let start' := s'.assign none counter (.number x)
    have same' : Run.SameSteps start start' := .assign same ..
    have rounds := rounds_lineless (runAll_lineless body) (.counting line counter last) budget.rounds
      (start.state.passed line) (start'.state.passed none) same'.store
    exact .bind rounds fun inner inner' steps => .ok (((steps.behind ..).behind ..).closed _)
  | function line name params body, s, s', same => by
    rw [lineless, Code.run_function, Code.run_function]
    refine .bind (runAll_lineless body same) fun inner inner' steps => .ok ⟨?_, rfl, steps.store⟩
    simp [steps.bare]
  | ret line value, s, s', same => by
    rw [lineless, Code.run_ret, Code.run_ret, text_lineless]
    exact .ok (.step same ..)
  | expression .., s, s', _ | identifier .., s, s', _ | number .., s, s', _ | string .., s, s', _
  | boolean .., s, s', _ | length .., s, s', _ | substring .., s, s', _
  | unsupported .., s, s', _ => .error rfl

lemma runAll_lineless : ∀ (ns : List Node) {s s' : State}, s.store = s'.store → Alike Run.SameSteps
    ((Code.block ns).run budget s) ((Code.block (linelessAll ns)).run budget s')
  | [], s, s', same => by
    rw [linelessAll, Code.run_nil, Code.run_nil]
    exact .ok ⟨rfl, rfl, same⟩
  | n :: ns, s, s', same => by
    rw [linelessAll, Code.run_cons, Code.run_cons]
    refine .bind (run_lineless n same) fun first first' steps => ?_
    rw [← steps.flow]
    cases flow : first.flow with
    | returned => exact .ok steps
    | next =>
      exact .bind (runAll_lineless ns steps.store) fun rest rest' goes => .ok (goes.after steps.bare)

end

end Node

/-- The traces show the same steps, at any lines and times. -/
def Trace.SameSteps (t t' : Trace) : Prop :=
  Frame.bareOf t.frames = Frame.bareOf t'.frames

namespace Program

/-- Two programs that are the same but for lines have traces that are the same but for lines and
times, or have none for the same cause. -/
theorem trace_alike {p q : Program} (h : p.lineless = q.lineless) (budget : Budget)
    (clock clock' : Clock) :
    Alike Trace.SameSteps (p.trace budget clock) (q.trace budget clock') := by
  have hp := @Node.runAll_lineless budget p.statements .initial .initial rfl
  have hq := @Node.runAll_lineless budget q.statements .initial .initial rfl
  rw [← show p.lineless.statements = Node.linelessAll q.statements by rw [h]; rfl] at hq
  have both := hp.join hq fun r m r' left right => left.bare.trans right.bare.symm
  rw [trace_eq, trace_eq]
  refine both.bind fun r r' steps => .ok ?_
  show Frame.bareOf (Frame.stampAll clock r.frames) = Frame.bareOf (Frame.stampAll clock' r'.frames)
  rw [Frame.bareOf_stampAll, Frame.bareOf_stampAll, steps]

end Program

/-- A function with a loop of two rounds, at lines of which each may be missing. -/
def loopsInside (outer inner : Option UInt32) : Program where
  statements := [
    .function outer "f" ["x"] [
      .loopFromTo inner "i" (.number outer 1) (.number inner 2) [
        .print outer (.identifier inner "i")]]]

/-- At other lines and times `loopsInside` shows the same, and under a limit of one round it fails the
same but for the line of the loop. -/
theorem trace_alike_loopsInside :
    let p := loopsInside (some 4) (some 7)
    let q := loopsInside none (some 2)
    p.lineless = q.lineless ∧
      (∃ t t', p.trace (.limit 2) (.steps 0 1) = .ok t ∧ q.trace (.limit 2) (.steps 5 3) = .ok t' ∧
        t.SameSteps t') ∧
      p.trace (.limit 1) (.steps 0 1) = .error (.fault (.tooManyRounds 1 7)) ∧
      q.trace (.limit 1) (.steps 5 3) = .error (.fault (.tooManyRounds 1 2)) := by
  intro p q
  have same : p.lineless = q.lineless := rfl
  have compiles : ∃ t, p.trace (.limit 2) (.steps 0 1) = .ok t := ⟨_, rfl⟩
  obtain ⟨t, h⟩ := compiles
  have both := Program.trace_alike same (.limit 2) (.steps 0 1) (.steps 5 3)
  rw [h] at both
  generalize h' : q.trace (.limit 2) (.steps 5 3) = result at both
  cases both with
  | ok steps => exact ⟨same, ⟨t, _, h, rfl, steps⟩, rfl, rfl⟩

end Playback
