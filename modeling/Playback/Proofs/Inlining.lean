import Playback.Proofs.Lineless
import Playback.Proofs.Stages

/-!
# Inlined functions

A function is run where it is declared, in the store of the program, so its body might as well stand in
its place. The one thing that a declaration does to its statements is to stop a return; where the body
does not return, the frames of the body are all that is left when the definition around them is dropped.

A place for statements in a program is a function from the list that stands there to the program
(`Node.SurroundsIn`). Which frames belong to the declaration at the place is told by the runs of it
under all names and parameters: their frames are the same forest, in which the definitions with a mark
take the name and the parameters (`Frame.renamedOf`).

Main statement: a declaration whose body does not return and the body itself in its place make the same
trace but for lines and times, when the definitions of the declaration are replaced by what is inside
them, and they print the same; or both programs have no trace for the same cause
(`Program.trace_inlined`).
-/

namespace Playback

/-! ## Places for statements -/

/-- A node around a place for an expression. -/
inductive Node.Hosts : (Node → Node) → Prop where
  | value {line name} : Hosts (.declaration line name ·)
  | printed {line} : Hosts (.print line ·)
  | condition {line consequent alternate} : Hosts (.branch line · consequent alternate)
  | goal {line body} : Hosts (.loopUntil line · body)
  | start {line counter last body} : Hosts (.loopFromTo line counter · last body)
  | stop {line counter first body} : Hosts (.loopFromTo line counter first · body)
  | returned {line} : Hosts (.ret line ·)
  | left {line op right} : Hosts fun n => .expression line (some n) op right
  | right {line left op} : Hosts fun n => .expression line left op (some n)
  | first {line source last} : Hosts (.substring line source · last)
  | last {line source first} : Hosts (.substring line source first ·)

mutual

/-- A node around a place for statements, at any depth. -/
inductive Node.Surrounds : (List Node → Node) → Prop where
  | consequent {line condition alternate c} (h : SurroundsIn c) :
      Surrounds fun ns => .branch line condition (c ns) alternate
  | alternate {line condition consequent c} (h : SurroundsIn c) :
      Surrounds fun ns => .branch line condition consequent (some (c ns))
  | repeated {line condition c} (h : SurroundsIn c) :
      Surrounds fun ns => .loopUntil line condition (c ns)
  | counted {line counter first last c} (h : SurroundsIn c) :
      Surrounds fun ns => .loopFromTo line counter first last (c ns)
  | body {line name params c} (h : SurroundsIn c) :
      Surrounds fun ns => .function line name params (c ns)
  | inside {host c} (hosts : Hosts host) (h : Surrounds c) : Surrounds fun ns => host (c ns)

/-- A list of statements around a place for statements, in the list itself or inside one of them. -/
inductive Node.SurroundsIn : (List Node → List Node) → Prop where
  | here {after} : SurroundsIn (· ++ after)
  | head {c after} (h : Surrounds c) : SurroundsIn fun ns => c ns :: after
  | tail {n c} (h : SurroundsIn c) : SurroundsIn fun ns => n :: c ns

end

namespace Node

variable {old : Node} {new : List Node}

lemma Hosts.replaced {host : Node → Node} (hosts : Hosts host) {n n' : Node}
    (h : Replaced old new n n') : Replaced old new (host n) (host n') := by
  cases hosts <;> constructor <;> exact h

mutual

lemma Surrounds.replaced :
    ∀ {c : List Node → Node}, Surrounds c → Replaced old new (c [old]) (c new)
  | _, .consequent h => .consequent h.replaced
  | _, .alternate h => .alternate h.replaced
  | _, .repeated h => .repeated h.replaced
  | _, .counted h => .counted h.replaced
  | _, .body h => .body h.replaced
  | _, .inside hosts h => hosts.replaced h.replaced

lemma SurroundsIn.replaced :
    ∀ {c : List Node → List Node}, SurroundsIn c → ReplacedIn old new (c [old]) (c new)
  | _, .here => .here
  | _, .head h => .head h.replaced
  | _, .tail h => .tail h.replaced

end

/-- What stands inside an expression makes no difference to a run. -/
lemma Hosts.run_eq {host : Node → Node} (hosts : Hosts host) {n n' : Node}
    (h : Replaced old new n n') (budget : Budget) (s : State) :
    (Code.statement (host n')).run budget s = (Code.statement (host n)).run budget s := by
  cases hosts with
  | value => rw [Code.run_declaration, Code.run_declaration, h.evaluate_eq]
  | printed => rw [Code.run_print, Code.run_print, h.printed_eq]
  | condition => rw [Code.run_branch, Code.run_branch, h.holds_eq, h.text_eq]
  | @goal line body =>
    have same := Guard.loop_conditional_replaced h line
    rw [Code.run_loopUntil, Code.run_loopUntil, Code.run_rounds_of_loop_eq same,
      show n'.negated.text = n.negated.text from congrArg Loop.condition same]
  | start => rw [Code.run_loopFromTo, Code.run_loopFromTo, h.evaluateNumber_eq]
  | @stop line counter first body =>
    have same := Guard.loop_counting_replaced h line counter
    rw [Code.run_loopFromTo, Code.run_loopFromTo, h.text_eq]
    simp only [Code.run_rounds_of_loop_eq same]
  | returned => rw [Code.run_ret, Code.run_ret, h.text_eq]
  | left | right | first | last => rfl

end Node

/-! ## Returns -/

/-- The statement is a return, or holds one that is in no function inside it. -/
inductive Node.Returns : Node → Prop where
  | ret {line value} : Returns (.ret line value)
  | consequent {line condition consequent alternate n} (mem : n ∈ consequent) (h : Returns n) :
      Returns (.branch line condition consequent alternate)
  | alternate {line condition consequent alternate n} (mem : n ∈ alternate) (h : Returns n) :
      Returns (.branch line condition consequent (some alternate))
  | repeated {line condition body n} (mem : n ∈ body) (h : Returns n) :
      Returns (.loopUntil line condition body)
  | counted {line counter first last body n} (mem : n ∈ body) (h : Returns n) :
      Returns (.loopFromTo line counter first last body)

/-- One of the statements returns. -/
def Code.Returns : Code → Prop
  | statement n => n.Returns
  | block ns => ∃ n ∈ ns, n.Returns
  | rounds _ body _ => ∃ n ∈ body, n.Returns

lemma Node.returns_of_chosen {line : Option UInt32} {condition : Node} {result : Bool}
    {consequent : List Node} {alternate : Option (List Node)} {n : Node}
    (mem : n ∈ chosen result consequent alternate) (h : n.Returns) :
    Returns (.branch line condition consequent alternate) := by
  cases result with
  | true => exact .consequent mem h
  | false =>
    cases alternate with
    | none => cases mem
    | some alternate => exact .alternate mem h

/-- Only what holds a return ends with one. -/
lemma Runs.returns {budget code s r} (runs : Runs budget code s r) (flow : r.flow = .returned) :
    code.Returns := by
  induction runs with
  | declaration | print | function | nil | stop => cases flow
  | branch _ _ ih =>
    obtain ⟨n, mem, h⟩ := ih flow
    exact Node.returns_of_chosen mem h
  | loopUntil _ ih =>
    obtain ⟨n, mem, h⟩ := ih flow
    exact .repeated mem h
  | loopFromTo _ _ _ ih =>
    obtain ⟨n, mem, h⟩ := ih flow
    exact .counted mem h
  | ret => exact .ret
  | returned _ returned ih => exact ⟨_, List.mem_cons_self .., ih returned⟩
  | next _ _ _ _ ih =>
    obtain ⟨n, mem, h⟩ := ih flow
    exact ⟨n, List.mem_cons_of_mem _ mem, h⟩
  | cut _ _ returned ih => exact ih returned
  | again _ _ _ _ _ _ ih => exact ih flow

lemma Runs.flow_eq_next {budget body s r} (stays : ∀ n ∈ body, ¬ Node.Returns n)
    (runs : Runs budget (.block body) s r) : r.flow = .next := by
  cases flow : r.flow with
  | next => rfl
  | returned =>
    obtain ⟨n, mem, h⟩ := runs.returns flow
    exact absurd h (stays n mem)

/-! ## Marked definitions -/

namespace Frame

mutual

/-- The frame when all marked definitions have this name and these parameters. -/
def renamed (name : String) (params : List String) : Frame Bool → Frame Unit
  | plain line _ action => plain line () action
  | define line true _ _ body => define line () name params (renamedOf name params body)
  | define line false own ownParams body => define line () own ownParams (renamedOf name params body)

/-- The frames when all marked definitions have this name and these parameters. -/
def renamedOf (name : String) (params : List String) : List (Frame Bool) → List (Frame Unit)
  | [] => []
  | f :: fs => renamed name params f :: renamedOf name params fs

end

mutual

/-- The frames that take the place of a frame when the frames inside a marked definition take its
place. -/
def dissolved : Frame Bool → List (Frame Unit)
  | plain line _ action => [plain line () action]
  | define _ true _ _ body => dissolvedOf body
  | define line false name params body => [define line () name params (dissolvedOf body)]

/-- The frames when the frames inside each marked definition take its place. -/
def dissolvedOf : List (Frame Bool) → List (Frame Unit)
  | [] => []
  | f :: fs => dissolved f ++ dissolvedOf fs

end

mutual

/-- The frame with no mark. -/
def unmarked : Frame Unit → Frame Bool
  | plain line _ action => plain line false action
  | define line _ name params body => define line false name params (unmarkedOf body)

/-- The frames with no mark. -/
def unmarkedOf : List (Frame Unit) → List (Frame Bool)
  | [] => []
  | f :: fs => unmarked f :: unmarkedOf fs

end

variable (name : String) (params : List String)

/-- Where a statement stands makes no difference to its frame but for the line. -/
lemma bareOf_frame (s s' : State) (line : Option UInt32) (action : Action) :
    bareOf [s.frame line action] = bareOf [s'.frame line action] := rfl

@[simp] lemma renamedOf_append (fs gs : List (Frame Bool)) :
    renamedOf name params (fs ++ gs) = renamedOf name params fs ++ renamedOf name params gs := by
  induction fs with
  | nil => rfl
  | cons f fs ih => rw [List.cons_append, renamedOf, renamedOf, ih, List.cons_append]

@[simp] lemma dissolvedOf_append (fs gs : List (Frame Bool)) :
    dissolvedOf (fs ++ gs) = dissolvedOf fs ++ dissolvedOf gs := by
  induction fs with
  | nil => rfl
  | cons f fs ih => rw [List.cons_append, dissolvedOf, dissolvedOf, ih, List.append_assoc]

@[simp] lemma renamedOf_unmarkedOf (fs : List (Frame Unit)) :
    renamedOf name params (unmarkedOf fs) = fs := by
  induction fs using forest_induction with
  | nil => rfl
  | plain line stamp action fs ih => rw [unmarkedOf, unmarked, renamedOf, renamed, ih]
  | define line stamp own ownParams body fs ihbody ih =>
    rw [unmarkedOf, unmarked, renamedOf, renamed, ihbody, ih]

@[simp] lemma dissolvedOf_unmarkedOf (fs : List (Frame Unit)) :
    dissolvedOf (unmarkedOf fs) = fs := by
  induction fs using forest_induction with
  | nil => rfl
  | plain line stamp action fs ih => rw [unmarkedOf, unmarked, dissolvedOf, dissolved, ih]; rfl
  | define line stamp own ownParams body fs ihbody ih =>
    rw [unmarkedOf, unmarked, dissolvedOf, dissolved, ihbody, ih]
    rfl

/-- A name has no line. -/
lemma linesOf_renamedOf (fs : List (Frame Bool)) :
    linesOf (renamedOf name params fs) = linesOf fs := by
  induction fs using forest_induction with
  | nil => rfl
  | plain line mark action fs ih => exact congrArg (line :: ·) ih
  | define line mark own ownParams body fs ihbody ih =>
    simp only [linesOf] at ihbody ih
    cases mark <;> simp [renamedOf, renamed, linesOf, Frame.line, ihbody, ih]

lemma highestOf_renamedOf (fs : List (Frame Bool)) :
    highestOf 0 (renamedOf name params fs) = highestOf 0 fs := by
  rw [highestOf_eq_foldl, highestOf_eq_foldl, linesOf_renamedOf]

@[simp] lemma actionsOf_renamedOf (fs : List (Frame Bool)) :
    actionsOf (renamedOf name params fs) = actionsOf fs := by
  induction fs using forest_induction with
  | nil => rfl
  | plain line mark action fs ih => simp [renamedOf, renamed, ih]
  | define line mark own ownParams body fs ihbody ih =>
    cases mark <;> simp [renamedOf, renamed, ihbody, ih]

@[simp] lemma actionsOf_dissolvedOf (fs : List (Frame Bool)) :
    actionsOf (dissolvedOf fs) = actionsOf fs := by
  induction fs using forest_induction with
  | nil => rfl
  | plain line mark action fs ih => simp [dissolvedOf, dissolved, ih]
  | define line mark own ownParams body fs ihbody ih =>
    cases mark <;> simp [dissolvedOf, dissolved, ihbody, ih]

end Frame

/-! ## Runs with marks -/

/-- What runs of a declaration under all names leave behind, with a mark at its definitions. -/
structure MarkedRun where
  frames : List (Frame Bool)
  flow : Flow
  state : State

namespace MarkedRun

/-- The run when the declaration has this name and these parameters. -/
def renamed (name : String) (params : List String) (m : MarkedRun) : Run :=
  ⟨Frame.renamedOf name params m.frames, m.flow, m.state⟩

/-- The run when what is inside the marked definitions takes their place. -/
def dissolved (m : MarkedRun) : Run :=
  ⟨Frame.dissolvedOf m.frames, m.flow, m.state⟩

/-- The run with no mark. -/
def unmarked (r : Run) : MarkedRun :=
  ⟨Frame.unmarkedOf r.frames, r.flow, r.state⟩

/-- The run behind frames that come first. -/
def after (frames : List (Frame Bool)) (m : MarkedRun) : MarkedRun :=
  { m with frames := frames ++ m.frames }

/-- The run as a block with the frame that ends it. -/
def closed (action : Action) (m : MarkedRun) : MarkedRun :=
  { m with
    frames := m.frames ++ [.plain (Frame.lineAfter (Frame.highestOf 0 m.frames)) false action] }

section

variable (m : MarkedRun) (name : String) (params : List String)

@[simp] lemma renamed_flow : (m.renamed name params).flow = m.flow := rfl
@[simp] lemma renamed_state : (m.renamed name params).state = m.state := rfl
@[simp] lemma dissolved_flow : m.dissolved.flow = m.flow := rfl

end

lemma renamed_unmarked (r : Run) (name : String) (params : List String) :
    (unmarked r).renamed name params = r := by
  simp [unmarked, renamed]

lemma dissolved_unmarked (r : Run) : (unmarked r).dissolved = r := by
  simp [unmarked, dissolved]

variable (m : MarkedRun)

lemma renamed_after (fs : List (Frame Bool)) (name : String) (params : List String) :
    (m.after fs).renamed name params =
      (m.renamed name params).after (Frame.renamedOf name params fs) := by
  simp [after, renamed, Run.after]

lemma renamed_closed (action : Action) (name : String) (params : List String) :
    (m.closed action).renamed name params = (m.renamed name params).closed action := by
  simp only [closed, renamed, Run.closed, Frame.closed, Frame.renamedOf_append,
    Frame.highestOf_renamedOf]
  rfl

lemma dissolved_after (fs : List (Frame Bool)) :
    (m.after fs).dissolved = m.dissolved.after (Frame.dissolvedOf fs) := by
  simp [after, dissolved, Run.after]

variable {m : MarkedRun} {r : Run} (h : m.dissolved.SameSteps r)
include h

lemma bareOf_dissolvedOf : Frame.bareOf (Frame.dissolvedOf m.frames) = Frame.bareOf r.frames :=
  h.bare

lemma closed_sameSteps (action : Action) :
    (m.closed action).dissolved.SameSteps (r.closed action) where
  bare := by
    simp [closed, dissolved, Run.closed, bareOf_dissolvedOf h]
    rfl
  flow := h.flow
  store := h.store

end MarkedRun

/-! ## The same code from two states -/

section

variable {budget : Budget} {s s' : State} (same : s.store = s'.store)
include same

/-- What code does depends on the store alone. -/
lemma Code.block_alike (ns : List Node) :
    Alike Run.SameSteps ((block ns).run budget s) ((block ns).run budget s') :=
  (Node.runAll_lineless ns same).join (Node.runAll_lineless ns rfl) fun _ _ _ => .join

lemma Code.statement_alike (n : Node) :
    Alike Run.SameSteps ((statement n).run budget s) ((statement n).run budget s') :=
  (Node.run_lineless n same).join (Node.run_lineless n rfl) fun _ _ _ => .join

lemma Guard.advance_alike (guard : Guard) :
    Alike Run.SameSteps (haltOn (guard.loop.advance s)) (haltOn (guard.loop.advance s')) :=
  (guard.advance_lineless same).join (guard.advance_lineless rfl) fun _ _ _ => .join

end

/-! ## Declarations and their bodies -/

/-- The runs of a declaration under all names and parameters end like one run without it: they have
marks in common, and differ from it by what is around the frames inside the marked definitions. -/
inductive Transparent (declared : String → List String → Except Halt Run) :
    Except Halt Run → Prop where
  | ok {m : MarkedRun} {r : Run}
      (runs : ∀ name params, declared name params = .ok (m.renamed name params))
      (same : m.dissolved.SameSteps r) : Transparent declared (.ok r)
  | error {halt halt'} (fails : ∀ name params, declared name params = .error halt)
      (same : halt.lineless = halt'.lineless) : Transparent declared (.error halt')

namespace Transparent

/-- Without the declaration. -/
lemma of_alike {x y : Except Halt Run} (h : Alike Run.SameSteps x y) :
    Transparent (fun _ _ => x) y := by
  cases h with
  | error same => exact .error (fun _ _ => rfl) same
  | @ok r r' same =>
    refine .ok (m := .unmarked r) (fun name params => ?_) ?_
    · rw [MarkedRun.renamed_unmarked]
    · rwa [MarkedRun.dissolved_unmarked]

variable {x : String → List String → Except Halt Run} {y : Except Halt Run}

lemma bind {f : String → List String → Run → Except Halt Run} {g : Run → Except Halt Run}
    (first : Transparent x y)
    (rest : ∀ (m : MarkedRun) r, m.dissolved.SameSteps r →
      Transparent (fun name params => f name params (m.renamed name params)) (g r)) :
    Transparent (fun name params => x name params >>= f name params) (y >>= g) := by
  cases first with
  | error fails same => exact .error (fun name params => by rw [fails]; rfl) same
  | ok runs same =>
    have goes := rest _ _ same
    simp only [runs]
    exact goes

lemma bind_alike {α β : Type} {R : α → β → Prop} {z : Except Halt α} {z' : Except Halt β}
    {f : String → List String → α → Except Halt Run} {g : β → Except Halt Run}
    (first : Alike R z z')
    (rest : ∀ a b, R a b → Transparent (fun name params => f name params a) (g b)) :
    Transparent (fun name params => z >>= f name params) (z' >>= g) := by
  cases first with
  | error same => exact .error (fun _ _ => rfl) same
  | ok related => exact rest _ _ related

/-- A step that all of them do, and that may meet a fault. -/
lemma bind_haltOn {ε : Type} {z : Except Fault ε} {f : String → List String → ε → Except Halt Run}
    {g : ε → Except Halt Run} (rest : ∀ a, Transparent (fun name params => f name params a) (g a)) :
    Transparent (fun name params => haltOn z >>= f name params) (haltOn z >>= g) := by
  cases z with
  | error cause => exact .error (fun _ _ => rfl) rfl
  | ok a => exact rest a

variable {m : MarkedRun} {r : Run}

/-- The frames in front may have marks, too. -/
lemma after (same : m.dissolved.SameSteps r) (front : List (Frame Bool))
    {frames : String → List String → List (Frame Unit)} {frames' : List (Frame Unit)}
    (fronts : ∀ name params, Frame.renamedOf name params front = frames name params)
    (bare : Frame.bareOf (Frame.dissolvedOf front) = Frame.bareOf frames') :
    Transparent (fun name params => .ok ((m.renamed name params).after (frames name params)))
      (.ok (r.after frames')) := by
  refine .ok (m := m.after front) (fun name params => ?_) ?_
  · rw [m.renamed_after, fronts]
  · rw [m.dissolved_after]
    exact same.after bare

lemma unmarked_after {rest rest' : Run} (goes : rest.SameSteps rest') (front : List (Frame Bool))
    {frames : String → List String → List (Frame Unit)} {frames' : List (Frame Unit)}
    (fronts : ∀ name params, Frame.renamedOf name params front = frames name params)
    (bare : Frame.bareOf (Frame.dissolvedOf front) = Frame.bareOf frames') :
    Transparent (fun name params => .ok (rest.after (frames name params)))
      (.ok (rest'.after frames')) := by
  have same : (MarkedRun.unmarked rest).dissolved.SameSteps rest' := by
    rwa [MarkedRun.dissolved_unmarked]
  have later := after same front fronts bare
  simpa only [MarkedRun.renamed_unmarked] using later

/-- Frames with no mark stand in front. -/
lemma behind (same : m.dissolved.SameSteps r) {frames frames' : List (Frame Unit)}
    (bare : Frame.bareOf frames = Frame.bareOf frames') :
    Transparent (fun name params => .ok ((m.renamed name params).after frames))
      (.ok (r.after frames')) := by
  refine after same (Frame.unmarkedOf frames) (fun name params => ?_) ?_
  · rw [Frame.renamedOf_unmarkedOf]
  · rwa [Frame.dissolvedOf_unmarkedOf]

/-- Frames with no mark stand in front, and what is behind them is closed. -/
lemma closed {frames frames' : List (Frame Unit)} (same : m.dissolved.SameSteps r)
    (bare : Frame.bareOf frames = Frame.bareOf frames') (action : Action) :
    Transparent (fun name params => .ok (((m.renamed name params).after frames).closed action))
      (.ok ((r.after frames').closed action)) := by
  refine .ok (m := (m.after (Frame.unmarkedOf frames)).closed action) (fun name params => ?_) ?_
  · rw [MarkedRun.renamed_closed, m.renamed_after, Frame.renamedOf_unmarkedOf]
  · refine MarkedRun.closed_sameSteps ?_ action
    rw [m.dissolved_after, Frame.dissolvedOf_unmarkedOf]
    exact same.after bare

variable {budget : Budget}

/-- The rounds of a loop around a declaration. -/
lemma rounds {body : String → List String → List Node} {body' : List Node}
    (h : ∀ {s s' : State}, s.store = s'.store →
      Transparent (fun name params => (Code.block (body name params)).run budget s)
        ((Code.block body').run budget s'))
    (guard : Guard) : ∀ left (s s' : State), s.store = s'.store →
      Transparent (fun name params => (Code.rounds guard (body name params) left).run budget s)
        ((Code.rounds guard body' left).run budget s')
  | 0, s, s', same => by
    simp only [Code.run_rounds_zero]
    rw [← same]
    refine bind_haltOn fun result => ?_
    cases result with
    | false => exact of_alike (.ok ⟨rfl, rfl, same⟩)
    | true => cases budget <;> exact .error (fun _ _ => rfl) rfl
  | left + 1, s, s', same => by
    simp only [Code.run_rounds_succ]
    rw [← same]
    refine bind_haltOn fun result => ?_
    cases result with
    | false => exact of_alike (.ok ⟨rfl, rfl, same⟩)
    | true =>
      refine bind (h same) fun m round steps => ?_
      simp only [MarkedRun.renamed_flow, MarkedRun.renamed_state]
      rw [← steps.flow, MarkedRun.dissolved_flow]
      cases m.flow with
      | returned =>
        exact behind steps rfl
      | next =>
        refine bind_alike (guard.advance_alike steps.store) fun step step' advance => ?_
        refine bind (rounds h guard left _ _ advance.store) fun m' rest goes => ?_
        let check := Frame.unmarkedOf [guard.check s true]
        let front := check ++ m.frames ++ Frame.unmarkedOf step.frames
        refine after goes front (fun name params => ?_) ?_
        · simp [front, check, MarkedRun.renamed]
        · simp [front, check, MarkedRun.bareOf_dissolvedOf steps, advance.bare]
          rfl

end Transparent

namespace Node

variable {budget : Budget} {line : Option UInt32} {body : List Node}

/-- A declaration in front of statements, and its body in front of them. -/
lemma transparent_here (stays : ∀ n ∈ body, ¬ n.Returns) (after : List Node) {s s' : State}
    (same : s.store = s'.store) :
    Transparent (fun name params =>
        (Code.block ([.function line name params body] ++ after)).run budget s)
      ((Code.block (body ++ after)).run budget s') := by
  have steps := (@Code.block_alike budget _ _ same body).of_ok fun r ended =>
    (Code.ends_iff.1 ended).flow_eq_next stays
  simp only [List.cons_append, List.nil_append, Code.run_cons, Code.run_function, bind_assoc, ok_bind]
  rw [Code.run_append]
  refine .bind_alike steps fun r r' ended => ?_
  obtain ⟨steps, next⟩ := ended
  rw [← steps.flow, next]
  have passed : (r.state.passed (some (s.lineOf line))).store = r'.state.store := steps.store
  refine .bind_alike (Code.block_alike passed after) fun rest rest' goes => ?_
  let definition : Frame Bool := .define (s.lineOf line) true "" [] (Frame.unmarkedOf r.frames)
  refine .unmarked_after goes [definition] (fun name params => ?_) ?_
  · simp [definition, Frame.renamedOf, Frame.renamed]
  · simpa [definition, Frame.dissolvedOf, Frame.dissolved] using steps.bare

mutual

/-- A declaration can be inlined at any place of a statement. -/
lemma Surrounds.transparent (stays : ∀ n ∈ body, ¬ n.Returns) :
    ∀ {c : List Node → Node}, Surrounds c → ∀ {s s' : State}, s.store = s'.store →
      Transparent
        (fun name params => (Code.statement (c [.function line name params body])).run budget s)
        ((Code.statement (c body)).run budget s')
  | _, @Surrounds.consequent branchLine condition alternate c h, s, s', same => by
    have passed : (s.passed branchLine).store = (s'.passed branchLine).store := same
    simp only [Code.run_branch]
    rw [← same]
    refine .bind_haltOn fun result => .bind ?_ fun m r steps =>
      .closed steps (Frame.bareOf_frame ..) _
    cases result with
    | true => exact h.transparent stays passed
    | false => exact .of_alike (Code.block_alike passed (alternate.getD []))
  | _, @Surrounds.alternate branchLine condition consequent c h, s, s', same => by
    have passed : (s.passed branchLine).store = (s'.passed branchLine).store := same
    simp only [Code.run_branch]
    rw [← same]
    refine .bind_haltOn fun result => .bind ?_ fun m r steps =>
      .closed steps (Frame.bareOf_frame ..) _
    cases result with
    | true => exact .of_alike (Code.block_alike passed consequent)
    | false => exact h.transparent stays passed
  | _, @Surrounds.repeated loopLine condition c h, s, s', same => by
    simp only [Code.run_loopUntil]
    have rounds := Transparent.rounds (h.transparent stays) (.conditional loopLine condition)
      budget.rounds (s.passed loopLine) (s'.passed loopLine) same
    exact .bind rounds fun m r steps => .closed steps (Frame.bareOf_frame ..) _
  | _, @Surrounds.counted loopLine counter first last c h, s, s', same => by
    simp only [Code.run_loopFromTo]
    rw [← same]
    refine .bind_haltOn fun x => ?_
    have start : s.store.set counter (.number x) = s'.store.set counter (.number x) := by rw [same]
    have rounds := Transparent.rounds (h.transparent stays) (.counting loopLine counter last)
      budget.rounds ((s.assign loopLine counter (.number x)).state.passed loopLine)
      ((s'.assign loopLine counter (.number x)).state.passed loopLine) start
    refine .bind rounds fun m r steps => .closed steps ?_ _
    rfl
  | _, @Surrounds.body defined own ownParams c h, s, s', same => by
    simp only [Code.run_function]
    refine .bind (h.transparent stays same) fun m r steps => ?_
    refine .ok (m := ⟨[.define (s.lineOf defined) false own ownParams m.frames], .next,
      m.state.passed (some (s.lineOf defined))⟩) (fun _ _ => rfl) ⟨?_, rfl, steps.store⟩
    simp [MarkedRun.dissolved, Frame.dissolvedOf, Frame.dissolved, MarkedRun.bareOf_dissolvedOf steps]
  | _, @Surrounds.inside host c hosts h, s, s', same => by
    have unchanged (name : String) (params : List String) :
        (Code.statement (host (c [.function line name params body]))).run budget s =
          (Code.statement (host (c body))).run budget s :=
      (hosts.run_eq h.replaced budget s).symm
    simp only [unchanged]
    exact .of_alike (Code.statement_alike same _)

lemma SurroundsIn.transparent (stays : ∀ n ∈ body, ¬ n.Returns) :
    ∀ {c : List Node → List Node}, SurroundsIn c → ∀ {s s' : State}, s.store = s'.store →
      Transparent
        (fun name params => (Code.block (c [.function line name params body])).run budget s)
        ((Code.block (c body)).run budget s')
  | _, .here, s, s', same => transparent_here stays _ same
  | _, .head h, s, s', same => by
    simp only [Code.run_cons]
    refine .bind (h.transparent stays same) fun m r steps => ?_
    simp only [MarkedRun.renamed_flow, MarkedRun.renamed_state]
    rw [← steps.flow, MarkedRun.dissolved_flow]
    cases m.flow with
    | returned => exact .ok (fun _ _ => rfl) steps
    | next =>
      refine .bind_alike (Code.block_alike steps.store _) fun rest rest' goes => ?_
      exact .unmarked_after goes m.frames (fun _ _ => rfl) steps.bare
  | _, .tail h, s, s', same => by
    simp only [Code.run_cons]
    refine .bind_alike (Code.statement_alike same _) fun first first' steps => ?_
    rw [← steps.flow]
    cases first.flow with
    | returned => exact .of_alike (.ok steps)
    | next =>
      exact .bind (h.transparent stays steps.store) fun m rest goes => .behind goes steps.bare

end

end Node

namespace Program

/-- A declaration whose body does not return may be replaced by the statements of its body, wherever it
stands. Either both programs have no trace, for the same cause, whatever the name and the parameters of
the declaration are; or there are marks on the definitions of the declaration, such that the frames are
the same but for lines and times when what is inside the marked definitions takes their place. The
programs print the same. -/
theorem trace_inlined {c : List Node → List Node} (place : Node.SurroundsIn c) {body : List Node}
    (stays : ∀ n ∈ body, ¬ n.Returns) (line : Option UInt32) (budget : Budget) (clock clock' : Clock) :
    let declared name params : Program := ⟨c [.function line name params body]⟩
    let inlined : Program := ⟨c body⟩
    (∃ halt halt', (∀ name params, (declared name params).trace budget clock = .error halt) ∧
        inlined.trace budget clock' = .error halt' ∧ halt.lineless = halt'.lineless) ∨
      ∃ marked t', inlined.trace budget clock' = .ok t' ∧
        Frame.bareOf (Frame.dissolvedOf marked) = Frame.bareOf t'.frames ∧
        ∀ name params, ∃ t, (declared name params).trace budget clock = .ok t ∧
          t.frames = Frame.stampAll clock (Frame.renamedOf name params marked) ∧
          t.prints = t'.prints := by
  intro declared inlined
  have both := @Node.SurroundsIn.transparent budget line body stays c place .initial .initial rfl
  generalize ends : (Code.block (c body)).run budget .initial = result at both
  cases both with
  | error fails same =>
    refine .inl ⟨_, _, fun name params => ?_, ?_, same⟩
    · rw [trace_eq, fails, error_bind]
    · rw [trace_eq, ends, error_bind]
  | @ok m r runs same =>
    have bare := MarkedRun.bareOf_dissolvedOf same
    refine .inr ⟨m.frames, ⟨Frame.stampAll clock' r.frames⟩, ?_, ?_, fun name params =>
      ⟨⟨Frame.stampAll clock (m.renamed name params).frames⟩, ?_, rfl, ?_⟩⟩
    · rw [trace_eq, ends, ok_bind]
    · rw [Frame.bareOf_stampAll, bare]
    · rw [trace_eq, runs, ok_bind]
    · have actions := congrArg Frame.actionsOf bare
      simp only [Frame.actionsOf_bareOf, Frame.actionsOf_dissolvedOf] at actions
      simp [Trace.prints, Frame.prints_eq, MarkedRun.renamed, actions]

end Program

/-- A loop of two rounds around statements, and a function of the name `f` behind them. -/
def declaresInLoop (ns : List Node) : Program where
  statements := [
    .loopFromTo (some 1) "i" (.number none 1) (.number none 2) (ns ++ [
      .function (some 5) "f" ["x"] []])]

/-- Of the two functions of the name `f` in the loop the first one is inlined. -/
theorem trace_inlined_declaresInLoop :
    let body : List Node := [.print (some 3) (.identifier none "i")]
    let p := declaresInLoop [.function (some 2) "f" ["x"] body]
    let q := declaresInLoop body
    (∀ n ∈ body, ¬ n.Returns) ∧
      ∃ marked t t', p.trace (.limit 2) (.steps 0 1) = .ok t ∧
        q.trace (.limit 2) (.wall 0 0 fun _ => 7) = .ok t' ∧
        t.frames = Frame.stampAll (.steps 0 1) (Frame.renamedOf "f" ["x"] marked) ∧
        Frame.bareOf (Frame.dissolvedOf marked) = Frame.bareOf t'.frames ∧
        t.prints = ["1", "2"] ∧ t'.prints = ["1", "2"] := by
  intro body p q
  have stays : ∀ n ∈ body, ¬ n.Returns := by
    rintro n mem h
    cases List.mem_singleton.1 mem
    cases h
  have place : Node.SurroundsIn fun ns => (declaresInLoop ns).statements := .head (.counted .here)
  have compiles : ∃ t', q.trace (.limit 2) (.wall 0 0 fun _ => 7) = .ok t' ∧ t'.prints = ["1", "2"] :=
    ⟨_, (Program.trace_eq ..).trans rfl, rfl⟩
  obtain ⟨t', h', prints'⟩ := compiles
  rcases Program.trace_inlined place stays (some 2) (.limit 2) (.steps 0 1) (.wall 0 0 fun _ => 7) with
    ⟨halt, halt', -, fails, -⟩ | ⟨marked, u, ends, bare, declared⟩
  · cases h'.symm.trans fails
  · cases h'.symm.trans ends
    obtain ⟨t, h, frames, prints⟩ := declared "f" ["x"]
    exact ⟨stays, marked, t, t', h, h', frames, bare, prints.trans prints', prints'⟩

end Playback
