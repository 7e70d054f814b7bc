import Playback.Proofs.Grammar
import Playback.Proofs.OperandFaults
import Playback.Proofs.StoreLog
import Mathlib.Data.List.Basic

/-!
# Lines of statements

Each frame is issued by a statement: a check by its branch or its loop, what sets a counter by the loop,
and a definition by the function. `Issuer.Issues` tells by the shape of a program alone which frames its
statements issue. The frames are signed there: the stamp of a frame is the statement. One list of frames
can be signed in one way only (`Issuer.Issues.unique`).

The line of a frame is that of its statement. Where the statement has none, it is the line of the frame
that was added last, without those that close a block (`Frame.lastLine`). A definition is added behind the
frames inside it (`Frame.addedOf`), and has its line from before.

Main statement: so it is for all frames of a trace, and a program that fails for too many rounds in a loop
names the line of the last check of that loop (`Program.frame_lines`).
-/

namespace Playback

namespace Frame

variable {τ : Type}

/-! ## The order in which frames are added -/

mutual

/-- A frame behind all the frames inside it. -/
def added : Frame τ → List (Frame τ)
  | plain line stamp action => [plain line stamp action]
  | define line stamp name params body => addedOf body ++ [define line stamp name params body]

/-- All the frames of a forest in the order in which they are added. -/
def addedOf : List (Frame τ) → List (Frame τ)
  | [] => []
  | f :: fs => added f ++ addedOf fs

end

/-- The frames right inside a frame. -/
def inside (f : Frame τ) : List (Frame τ) :=
  f.body?.getD []

/-- The line of the last of the frames that closes no block; where there is none, `last`. -/
def lastLine (last : UInt32) (fs : List (Frame τ)) : UInt32 :=
  fs.foldl (fun last f => if f.isClosing then last else f.line) last

mutual

/-- The frame without stamps. -/
def unstamped : Frame τ → Frame Unit
  | plain line _ action => plain line () action
  | define line _ name params body => define line () name params (unstampedOf body)

/-- The frames without stamps. -/
def unstampedOf : List (Frame τ) → List (Frame Unit)
  | [] => []
  | f :: fs => unstamped f :: unstampedOf fs

end

section

variable (line last : UInt32) (stamp : τ) (action : Action) (name : String) (params : List String)
  (body fs gs : List (Frame τ))

@[simp] lemma addedOf_nil : addedOf ([] : List (Frame τ)) = [] := rfl

@[simp] lemma addedOf_plain :
    addedOf (.plain line stamp action :: fs) = .plain line stamp action :: addedOf fs := rfl

@[simp] lemma addedOf_define : addedOf (.define line stamp name params body :: fs) =
    addedOf body ++ .define line stamp name params body :: addedOf fs := by
  rw [addedOf, added, List.append_assoc]
  rfl

@[simp] lemma addedOf_append : addedOf (fs ++ gs) = addedOf fs ++ addedOf gs := by
  induction fs with
  | nil => rfl
  | cons f fs ih => rw [List.cons_append, addedOf, addedOf, ih, List.append_assoc]

@[simp] lemma lastLine_append : lastLine last (fs ++ gs) = lastLine (lastLine last fs) gs :=
  List.foldl_append ..

@[simp] lemma lastLine_define :
    lastLine last (.define line stamp name params body :: fs) = lastLine line fs := rfl

lemma lastLine_cons (f : Frame τ) : lastLine last (f :: fs) =
    lastLine (if f.isClosing then last else f.line) fs := rfl

@[simp] lemma unstampedOf_nil : unstampedOf ([] : List (Frame τ)) = [] := rfl

@[simp] lemma unstampedOf_plain :
    unstampedOf (.plain line stamp action :: fs) = .plain line () action :: unstampedOf fs := rfl

@[simp] lemma unstampedOf_define : unstampedOf (.define line stamp name params body :: fs) =
    .define line () name params (unstampedOf body) :: unstampedOf fs := rfl

@[simp] lemma unstampedOf_append : unstampedOf (fs ++ gs) = unstampedOf fs ++ unstampedOf gs := by
  induction fs with
  | nil => rfl
  | cons f fs ih => rw [List.cons_append, unstampedOf, unstampedOf, ih, List.cons_append]

/-- A frame and what comes behind it, in front of the rest. -/
lemma unstampedOf_headed (rest : List (Frame Unit)) :
    unstampedOf (.plain line stamp action :: fs ++ gs) ++ rest =
      .plain line () action :: (unstampedOf fs ++ (unstampedOf gs ++ rest)) := by
  rw [List.cons_append, unstampedOf_plain, unstampedOf_append, List.cons_append, List.append_assoc]

/-- What closes a block is told by its action. -/
lemma isClosing_plain : (plain line stamp action).isClosing = (plain 0 () action).isClosing := by
  cases action <;> rfl

/-- Stamps have nothing to do with lines. -/
lemma lastLine_addedOf_unstampedOf :
    lastLine last (addedOf (unstampedOf fs)) = lastLine last (addedOf fs) := by
  induction fs using forest_induction generalizing last with
  | nil => rfl
  | plain line stamp action fs ih =>
    rw [unstampedOf_plain, addedOf_plain, addedOf_plain, lastLine_cons, lastLine_cons, ih,
      isClosing_plain line () action, isClosing_plain line stamp action]
    rfl
  | define line stamp name params body fs _ ih => simp [ih]

/-- Times are given to all frames alike. -/
lemma stamps_unstampedOf (clock : Clock) :
    stampAll clock (unstampedOf fs) = stampAll clock fs ∧
      clockBehind clock (unstampedOf fs) = clockBehind clock fs := by
  induction fs using forest_induction generalizing clock with
  | nil => exact ⟨rfl, rfl⟩
  | plain line stamp action fs ih => simp [ih]
  | define line stamp name params body fs ihbody ih => simp [ihbody, ih]

lemma unstampedOf_stampAll (clock : Clock) : unstampedOf (stampAll clock fs) = unstampedOf fs := by
  induction fs using forest_induction generalizing clock with
  | nil => rfl
  | plain line stamp action fs ih => simp [ih]
  | define line stamp name params body fs ihbody ih => simp [ihbody, ih]

end

end Frame

/-! ## Statements and their frames -/

/-- What issues frames. -/
inductive Issuer where
  | statement (n : Node)
  /-- Statements one after another. -/
  | block (ns : List Node)
  /-- The loop `n` in its rounds. -/
  | rounds (n : Node) (guard : Guard) (body : List Node)

/-- What the loop `n` issues behind a round: only a counter is set. -/
def Guard.GoesOn (n : Node) : Guard → List (Frame Node) → Prop
  | conditional .., step => step = []
  | counting _ counter _, step => ∃ l type v, step = [.plain l n (.set counter type v)]

/-- The frames may be issued, whatever their lines and values are; the stamp of each is the statement that
issues it. -/
inductive Issuer.Issues : Issuer → Flow → List (Frame Node) → Prop where
  | declaration {line name value l type v} :
      Issues (.statement (.declaration line name value)) .next
        [.plain l (.declaration line name value) (.set name type v)]
  | print {line value l isLiteral name literal} :
      Issues (.statement (.print line value)) .next
        [.plain l (.print line value) (.print isLiteral name literal)]
  | branch {line condition consequent alternate l l' result flow fs}
      (chosen : Issues (.block (Node.chosen result consequent alternate)) flow fs) :
      Issues (.statement (.branch line condition consequent alternate)) flow
        (.plain l (.branch line condition consequent alternate) (.check condition.text result) :: fs ++
          [.plain l' (.branch line condition consequent alternate) .endBranch])
  | loopUntil {line condition body l l' flow fs}
      (rounds : Issues (.rounds (.loopUntil line condition body) (.conditional line condition) body)
        flow fs) :
      Issues (.statement (.loopUntil line condition body)) flow
        (.plain l (.loopUntil line condition body) (.loopUntil condition.negated.text) :: fs ++
          [.plain l' (.loopUntil line condition body) (.endLoop .conditional)])
  | loopFromTo {line counter first last body ls type v l l' flow fs}
      (rounds : Issues (.rounds (.loopFromTo line counter first last body) (.counting line counter last)
        body) flow fs) :
      Issues (.statement (.loopFromTo line counter first last body)) flow
        (.plain ls (.loopFromTo line counter first last body) (.set counter type v) ::
          .plain l (.loopFromTo line counter first last body)
            (.loopFromTo (Operator.lessEq.applied counter last.text)) :: fs ++
          [.plain l' (.loopFromTo line counter first last body) (.endLoop .counting)])
  | function {line name params body l flow fs} (inside : Issues (.block body) flow fs) :
      Issues (.statement (.function line name params body)) .next
        [.define l (.function line name params body) name params fs]
  | ret {line value l} :
      Issues (.statement (.ret line value)) .returned [.plain l (.ret line value) (.ret value.text)]
  | nil : Issues (.block []) .next []
  | returned {n ns fs} (first : Issues (.statement n) .returned fs) :
      Issues (.block (n :: ns)) .returned fs
  | next {n ns flow fs gs} (first : Issues (.statement n) .next fs) (goes : Issues (.block ns) flow gs) :
      Issues (.block (n :: ns)) flow (fs ++ gs)
  | stop {n guard body l} :
      Issues (.rounds n guard body) .next [.plain l n (.check guard.loop.condition false)]
  | cut {n guard body l fs} (round : Issues (.block body) .returned fs) :
      Issues (.rounds n guard body) .returned (.plain l n (.check guard.loop.condition true) :: fs)
  | again {n guard body l flow fs step gs} (round : Issues (.block body) .next fs)
      (steps : guard.GoesOn n step) (goes : Issues (.rounds n guard body) flow gs) :
      Issues (.rounds n guard body) flow
        (.plain l n (.check guard.loop.condition true) :: fs ++ step ++ gs)

open Playback.Frame (unstampedOf addedOf lastLine)

/-- What is issued behind a round is found in the frames that begin with it. -/
lemma Guard.GoesOn.determined {guard : Guard} {n : Node} {step step' : List (Frame Node)}
    {rest rest' : List (Frame Unit)} (steps : guard.GoesOn n step) (steps' : guard.GoesOn n step')
    (same : unstampedOf step ++ rest = unstampedOf step' ++ rest') : step = step' ∧ rest = rest' := by
  cases guard with
  | conditional line condition =>
    cases steps
    cases steps'
    exact ⟨rfl, same⟩
  | counting line counter last =>
    obtain ⟨l, type, v, rfl⟩ := steps
    obtain ⟨l', type', v', rfl⟩ := steps'
    cases same
    exact ⟨rfl, rfl⟩

/-- What is issued is found in the frames that begin with it, and so is how it ends. -/
lemma Issuer.Issues.determined {issuer : Issuer} {flow : Flow} {fs : List (Frame Node)}
    (issues : issuer.Issues flow fs) : ∀ {flow' fs'} {rest rest' : List (Frame Unit)},
    issuer.Issues flow' fs' → unstampedOf fs ++ rest = unstampedOf fs' ++ rest' →
      flow = flow' ∧ fs = fs' ∧ rest = rest' := by
  -- the first frame tells the statement's branch or round, and how a block ends tells whether more comes
  induction issues with
  | declaration | print | ret =>
    rintro flow' fs' rest rest' ⟨⟩ same
    cases same
    exact ⟨rfl, rfl, rfl⟩
  | branch _ ih =>
    intro flow' fs' rest rest' issues' same
    cases issues' with
    | branch chosen' =>
      rw [Frame.unstampedOf_headed, Frame.unstampedOf_headed] at same
      obtain ⟨head, tail⟩ := List.cons.inj same
      cases head
      obtain ⟨rfl, rfl, closed⟩ := ih chosen' tail
      cases closed
      exact ⟨rfl, rfl, rfl⟩
  | loopUntil _ ih =>
    intro flow' fs' rest rest' issues' same
    cases issues' with
    | loopUntil rounds' =>
      rw [Frame.unstampedOf_headed, Frame.unstampedOf_headed] at same
      obtain ⟨head, tail⟩ := List.cons.inj same
      cases head
      obtain ⟨rfl, rfl, closed⟩ := ih rounds' tail
      cases closed
      exact ⟨rfl, rfl, rfl⟩
  | loopFromTo _ ih =>
    intro flow' fs' rest rest' issues' same
    cases issues' with
    | loopFromTo rounds' =>
      rw [Frame.unstampedOf_headed, Frame.unstampedOf_headed] at same
      obtain ⟨set, later⟩ := List.cons.inj same
      cases set
      obtain ⟨head, tail⟩ := List.cons.inj later
      cases head
      obtain ⟨rfl, rfl, closed⟩ := ih rounds' tail
      cases closed
      exact ⟨rfl, rfl, rfl⟩
  | function _ ih =>
    intro flow' fs' rest rest' issues' same
    cases issues' with
    | function inside' =>
      obtain ⟨definition, rfl⟩ := List.cons.inj same
      obtain ⟨rfl, -, -, -, body⟩ := Frame.define.inj definition
      obtain ⟨-, rfl, -⟩ := ih inside' (congrArg (· ++ []) body)
      exact ⟨rfl, rfl, rfl⟩
  | nil =>
    rintro flow' fs' rest rest' ⟨⟩ same
    exact ⟨rfl, rfl, same⟩
  | returned _ ih =>
    intro flow' fs' rest rest' issues' same
    cases issues' with
    | returned first' => exact ih first' same
    | next first' =>
      rw [Frame.unstampedOf_append, List.append_assoc] at same
      cases (ih first' same).1
  | next _ _ ih ihgoes =>
    intro flow' fs' rest rest' issues' same
    rw [Frame.unstampedOf_append, List.append_assoc] at same
    cases issues' with
    | returned first' => cases (ih first' same).1
    | next first' goes' =>
      rw [Frame.unstampedOf_append, List.append_assoc] at same
      obtain ⟨-, rfl, later⟩ := ih first' same
      obtain ⟨rfl, rfl, rfl⟩ := ihgoes goes' later
      exact ⟨rfl, rfl, rfl⟩
  | stop =>
    intro flow' fs' rest rest' issues' same
    cases issues' with
    | stop =>
      cases same
      exact ⟨rfl, rfl, rfl⟩
    | cut => cases (List.cons.inj same).1
    | again => cases (List.cons.inj same).1
  | cut _ ih =>
    intro flow' fs' rest rest' issues' same
    cases issues' with
    | stop => cases (List.cons.inj same).1
    | cut round' =>
      obtain ⟨head, tail⟩ := List.cons.inj same
      cases head
      obtain ⟨-, rfl, rfl⟩ := ih round' tail
      exact ⟨rfl, rfl, rfl⟩
    | again round' =>
      simp only [List.cons_append, Frame.unstampedOf_plain, Frame.unstampedOf_append, List.append_assoc]
        at same
      cases (ih round' (List.cons.inj same).2).1
  | again _ steps _ ih ihgoes =>
    intro flow' fs' rest rest' issues' same
    simp only [List.cons_append, Frame.unstampedOf_plain, Frame.unstampedOf_append, List.append_assoc]
      at same
    cases issues' with
    | stop => cases (List.cons.inj same).1
    | cut round' => cases (ih round' (List.cons.inj same).2).1
    | again round' steps' goes' =>
      simp only [List.cons_append, Frame.unstampedOf_plain, Frame.unstampedOf_append, List.append_assoc]
        at same
      obtain ⟨head, tail⟩ := List.cons.inj same
      cases head
      obtain ⟨-, rfl, counted⟩ := ih round' tail
      obtain ⟨rfl, later⟩ := steps.determined steps' counted
      obtain ⟨rfl, rfl, rfl⟩ := ihgoes goes' later
      exact ⟨rfl, rfl, rfl⟩

/-- Frames can be signed in one way only, whatever their times are. -/
lemma Issuer.Issues.unique {issuer : Issuer} {flow flow' : Flow} {signed signed' : List (Frame Node)}
    {clock : Clock} (issues : issuer.Issues flow signed) (issues' : issuer.Issues flow' signed')
    (same : Frame.stampAll clock signed' = Frame.stampAll clock signed) : signed' = signed := by
  have unstamped : unstampedOf signed ++ [] = unstampedOf signed' ++ [] := by
    rw [← Frame.unstampedOf_stampAll signed clock, ← same, Frame.unstampedOf_stampAll]
  exact (issues.determined issues' unstamped).2.1.symm

/-! ## Lines -/

/-- Each frame has the line of its statement, or else the line of the last frame before, where `last` is
the line of the last frame before all of them. What is inside a definition comes behind its line. -/
def Lined (last : UInt32) (signed : List (Frame Node)) : Prop :=
  ∀ before f after, addedOf signed = before ++ f :: after → ∃ outer, before = outer ++ addedOf f.inside ∧
    (f.isClosing = false → f.line = f.stamp.line.getD (lastLine last outer))

namespace Lined

variable {last : UInt32} {xs ys : List (Frame Node)}

lemma nil : Lined last [] := by
  intro before f after split
  simp at split

lemma append (first : Lined last xs) (goes : Lined (lastLine last (addedOf xs)) ys) :
    Lined last (xs ++ ys) := by
  intro before f after split
  rw [Frame.addedOf_append] at split
  rcases append_eq_append_cons split with ⟨after', earlier⟩ | ⟨before', rfl, later⟩
  · exact first before f after' earlier
  · obtain ⟨outer, rfl, line_eq⟩ := goes before' f after later
    refine ⟨addedOf xs ++ outer, (List.append_assoc ..).symm, fun ordinary => ?_⟩
    rw [line_eq ordinary, Frame.lastLine_append]

/-- A frame with nothing inside it. -/
lemma plain {l : UInt32} {n : Node} {action : Action}
    (h : (Frame.plain l n action).isClosing = false → l = n.line.getD last) :
    Lined last [.plain l n action] := by
  intro before f after split
  rcases snoc_eq_append_cons (show [] ++ [_] = before ++ f :: after from split) with ⟨rfl, rfl⟩ | ⟨after', none⟩
  · exact ⟨[], rfl, h⟩
  · simp at none

/-- The line of a definition is told by what is before the frames inside it. -/
lemma define {n : Node} {name : String} {params : List String} (body : Lined last xs) :
    Lined last [.define (n.line.getD last) n name params xs] := by
  intro before f after split
  rw [Frame.addedOf_define, Frame.addedOf_nil] at split
  rcases snoc_eq_append_cons split with ⟨rfl, rfl⟩ | ⟨after', earlier⟩
  · exact ⟨[], rfl, fun _ => rfl⟩
  · exact body before f after' earlier

end Lined

/-- The signed frames are the frames, which lead from the line `last` to the line `last'`. -/
structure Signs (last : UInt32) (frames : List (Frame Unit)) (last' : UInt32)
    (signed : List (Frame Node)) : Prop where
  unstamped : unstampedOf signed = frames
  lined : Lined last signed
  behind : last' = lastLine last (addedOf signed)

namespace Signs

variable {last mid last' : UInt32} {fs gs : List (Frame Unit)} {xs ys : List (Frame Node)}

lemma nil : Signs last [] last [] :=
  ⟨rfl, .nil, rfl⟩

lemma append (first : Signs last fs mid xs) (goes : Signs mid gs last' ys) :
    Signs last (fs ++ gs) last' (xs ++ ys) := by
  have later := first.behind ▸ goes.lined
  refine ⟨?_, first.lined.append later, ?_⟩
  · rw [Frame.unstampedOf_append, first.unstamped, goes.unstamped]
  · rw [goes.behind, first.behind, Frame.addedOf_append, Frame.lastLine_append]

/-- The frame of a statement. -/
lemma frame (s : State) (n : Node) {line : Option UInt32} {action : Action} (is : n.line = line)
    (ordinary : (Frame.plain 0 () action).isClosing = false) :
    Signs s.lastLine [s.frame line action] (s.passed line).lastLine
      [.plain (s.lineOf line) n action] where
  unstamped := rfl
  lined := .plain fun _ => is ▸ rfl
  behind := by
    rw [Frame.addedOf_plain, Frame.lastLine_cons, Frame.isClosing_plain, ordinary]
    rfl

/-- A frame that closes a block. -/
lemma close {l : UInt32} {n : Node} {action : Action}
    (closing : (Frame.plain 0 () action).isClosing = true) :
    Signs last [.plain l () action] last [.plain l n action] where
  unstamped := rfl
  lined := .plain fun ordinary => by
    rw [Frame.isClosing_plain, closing] at ordinary
    cases ordinary
  behind := by
    rw [Frame.addedOf_plain, Frame.lastLine_cons, Frame.isClosing_plain, closing]
    rfl

lemma define {n : Node} {name : String} {params : List String} (body : Signs last fs mid xs) :
    Signs last [.define (n.line.getD last) () name params fs] (n.line.getD last)
      [.define (n.line.getD last) n name params xs] where
  unstamped := by rw [Frame.unstampedOf_define, body.unstamped, Frame.unstampedOf_nil]
  lined := body.lined.define
  behind := by rw [Frame.addedOf_define, Frame.lastLine_append, Frame.lastLine_define]; rfl

lemma lastLine_eq (signs : Signs last fs last' xs) : last' = lastLine last (addedOf fs) := by
  rw [signs.behind, ← signs.unstamped, Frame.lastLine_addedOf_unstampedOf]

end Signs

/-- What issues the frames of the code; its rounds are those of the loop `n`. -/
def Code.issuer (n : Node) : Code → Issuer
  | statement n => .statement n
  | block ns => .block ns
  | rounds guard body _ => .rounds n guard body

/-- If the code is the rounds of a loop, they are on the line of the loop `n`. -/
def Code.IsAt (n : Node) : Code → Prop
  | rounds guard _ _ => n.line = guard.loop.line
  | _ => True

/-- Behind a round, a loop sets its counter or nothing. -/
lemma Guard.exists_goesOn {guard : Guard} {n : Node} {s : State} {step : Run}
    (is : n.line = guard.loop.line) (advances : guard.loop.advance s = .ok step) :
    ∃ signed, guard.GoesOn n signed ∧ Signs s.lastLine step.frames step.state.lastLine signed := by
  cases guard with
  | conditional line condition =>
    rw [Guard.advance_conditional advances]
    exact ⟨[], rfl, .nil⟩
  | counting line counter last =>
    obtain ⟨x, -, rfl⟩ := Guard.advance_counting advances
    exact ⟨_, ⟨_, _, _, rfl⟩, .frame s n is rfl⟩

/-- The frames of a run can be signed, and have the lines that they should have. -/
lemma Runs.exists_signed {budget code s r} (runs : Runs budget code s r) : ∀ n, code.IsAt n →
    ∃ signed, (code.issuer n).Issues r.flow signed ∧
      Signs s.lastLine r.frames r.state.lastLine signed := by
  induction runs with
  | declaration => exact fun _ _ => ⟨_, .declaration, .frame _ (.declaration ..) rfl rfl⟩
  | print prints =>
    intro _ _
    rcases Node.printed_cases prints with ⟨name, v, -, rfl⟩ | ⟨literal, rfl⟩
    · exact ⟨_, .print, .frame _ (.print ..) rfl rfl⟩
    · exact ⟨_, .print, .frame _ (.print ..) rfl rfl⟩
  | @branch line condition consequent alternate s result inner _ _ ih =>
    intro _ _
    let n := Node.branch line condition consequent alternate
    obtain ⟨signed, issues, signs⟩ := ih n trivial
    exact ⟨_, .branch issues, .append (.append (.frame s n rfl rfl) signs) (.close rfl)⟩
  | @loopUntil line condition body s inner _ ih =>
    intro _ _
    let n := Node.loopUntil line condition body
    obtain ⟨signed, issues, signs⟩ := ih n rfl
    exact ⟨_, .loopUntil issues, .append (.append (.frame s n rfl rfl) signs) (.close rfl)⟩
  | @loopFromTo line counter first last body s x start inner _ sets _ ih =>
    intro _ _
    let n := Node.loopFromTo line counter first last body
    obtain ⟨signed, issues, signs⟩ := ih n rfl
    subst sets
    let set := s.assign line counter (.number x)
    exact ⟨_, .loopFromTo issues,
      .append (.append (.append (.frame s n rfl rfl) (.frame set.state n rfl rfl)) signs) (.close rfl)⟩
  | @function line name params body s inner _ ih =>
    intro _ _
    let n := Node.function line name params body
    obtain ⟨signed, issues, signs⟩ := ih n trivial
    have defines : Signs s.lastLine [.define (n.line.getD s.lastLine) () name params inner.frames]
        (n.line.getD s.lastLine) [.define (n.line.getD s.lastLine) n name params signed] := signs.define
    exact ⟨_, .function issues, defines⟩
  | ret => exact fun _ _ => ⟨_, .ret, .frame _ (.ret ..) rfl rfl⟩
  | nil => exact fun _ _ => ⟨_, .nil, .nil⟩
  | returned _ flow ih =>
    intro n _
    obtain ⟨signed, issues, signs⟩ := ih n trivial
    rw [flow] at issues ⊢
    exact ⟨_, .returned issues, signs⟩
  | next _ flow _ ih ihgoes =>
    intro n _
    obtain ⟨first, issues, signs⟩ := ih n trivial
    obtain ⟨rest, goes, later⟩ := ihgoes n trivial
    rw [flow] at issues
    exact ⟨_, .next issues goes, signs.append later⟩
  | stop => exact fun n is => ⟨_, .stop, .frame _ n is rfl⟩
  | cut _ _ flow ih =>
    intro n is
    obtain ⟨round, issues, signs⟩ := ih n trivial
    rw [flow] at issues
    rw [Run.after_flow, flow]
    exact ⟨_, .cut issues, .append (.frame _ n is rfl) signs⟩
  | again _ _ flow advances _ ih ihgoes =>
    intro n is
    obtain ⟨round, issues, signs⟩ := ih n trivial
    obtain ⟨step, steps, advanced⟩ := Guard.exists_goesOn is advances
    obtain ⟨rest, goes, later⟩ := ihgoes n is
    rw [flow] at issues
    exact ⟨_, .again issues steps goes,
      .append (.append (.append (.frame _ n is rfl) signs) advanced) later⟩

/-! ## Too many rounds -/

/-- Only a check that holds when no round is left halts for too many rounds, and names its own line. -/
lemma Stage.halts_tooManyRounds_iff {budget : Budget} {stage : Stage} {s : State} {limit : Nat}
    {line : UInt32} : stage.Halts budget s (.fault (.tooManyRounds limit line)) ↔
      budget = .limit limit ∧ ∃ guard, stage = .check guard 0 ∧ guard.loop.test s.store = .ok true ∧
        line = (guard.check s true).line := by
  constructor
  · intro halts
    rcases halts.ofStep_or_overrun with ofStep | ⟨limit', guard, rfl, rfl, checks, same⟩
    · exact absurd rfl (ofStep.spares limit line)
    · cases same
      exact ⟨rfl, guard, rfl, checks, rfl⟩
  · rintro ⟨rfl, guard, rfl, checks, rfl⟩
    exact .overrun checks

lemma Frame.lastLine_frame (s : State) (line : Option UInt32) {action : Action}
    (ordinary : (Frame.plain 0 () action).isClosing = false) (fs : List (Frame Unit)) :
    lastLine s.lastLine (addedOf (s.frame line action :: fs)) =
      lastLine (s.passed line).lastLine (addedOf fs) := by
  rw [State.frame, Frame.addedOf_plain, Frame.lastLine_cons, Frame.isClosing_plain, ordinary]
  rfl

lemma Guard.exists_line (guard : Guard) : ∃ n : Node, n.line = guard.loop.line :=
  ⟨.boolean guard.loop.line true, rfl⟩

lemma Guard.lastLine_advance {guard : Guard} {s : State} {step : Run}
    (advances : guard.loop.advance s = .ok step) :
    step.state.lastLine = lastLine s.lastLine (addedOf step.frames) := by
  obtain ⟨n, is⟩ := guard.exists_line
  obtain ⟨signed, -, signs⟩ := exists_goesOn is advances
  exact signs.lastLine_eq

lemma Runs.lastLine_eq {budget code s r} (runs : Runs budget code s r) :
    r.state.lastLine = lastLine s.lastLine (addedOf r.frames) := by
  obtain ⟨n, is⟩ : ∃ n, code.IsAt n := by
    cases code with
    | rounds guard body left => exact guard.exists_line
    | _ => exact ⟨.boolean none true, trivial⟩
  obtain ⟨signed, -, signs⟩ := runs.exists_signed n is
  exact signs.lastLine_eq

/-- At every point of a run, the last line is that of the frames up to there. -/
lemma Reaches.lastLine_eq {budget code s stage log s'} (reaches : Reaches budget code s stage log s') :
    s'.lastLine = lastLine s.lastLine (addedOf log) := by
  induction reaches with
  | statement => rfl
  | branch _ _ ih => rw [ih, Frame.lastLine_frame _ _ rfl]
  | loopUntil _ ih => rw [ih, Frame.lastLine_frame _ _ rfl]
  | @loopFromTo line counter first last body s x start stage log s' _ sets _ ih =>
    subst sets
    show _ = lastLine s.lastLine (addedOf (s.frame line _ :: _))
    rw [ih, Frame.lastLine_frame _ _ rfl]
    exact (Frame.lastLine_frame (s.assign line counter (.number x)).state line rfl log).symm
  | function _ ih => exact ih
  | first _ ih => exact ih
  | next runs _ _ ih => rw [ih, runs.lastLine_eq, Frame.addedOf_append, Frame.lastLine_append]
  | check => rfl
  | round _ _ ih => rw [ih, Guard.check, Frame.lastLine_frame _ _ rfl]
  | advance _ runs _ => rw [runs.lastLine_eq, Guard.check, Frame.lastLine_frame _ _ rfl]
  | again _ runs _ advances _ ih =>
    rw [ih, Guard.lastLine_advance advances, runs.lastLine_eq, Guard.check, List.cons_append,
      List.cons_append, Frame.lastLine_frame _ _ rfl]
    simp only [Frame.addedOf_append, Frame.lastLine_append]
  | ended runs => exact runs.lastLine_eq

/-- Each frame of a trace is issued by one statement, and unless it closes a block, it has the line of the
statement. Where the statement has none, it has the line of the last frame that was added before and
closes no block, or zero where there is none; frames inside a definition are added before it, but do not
count for its line. A program fails for too many rounds exactly when the check of a loop holds and no round
is left, and the fault has the line of the frame of this check. -/
theorem Program.frame_lines (p : Program) (budget : Budget) (clock : Clock) :
    (∀ t, p.trace budget clock = .ok t → ∃ flow signed,
      (Issuer.block p.statements).Issues flow signed ∧ Frame.stampAll clock signed = t.frames ∧
      (∀ flow' signed', (Issuer.block p.statements).Issues flow' signed' →
        Frame.stampAll clock signed' = t.frames → signed' = signed) ∧
      ∀ before f after, Frame.addedOf signed = before ++ f :: after →
        ∃ outer, before = outer ++ Frame.addedOf f.inside ∧
          (f.isClosing = false → f.line = f.stamp.line.getD (Frame.lastLine 0 outer))) ∧
    ∀ limit line, p.trace budget clock = .error (.fault (.tooManyRounds limit line)) ↔
      budget = .limit limit ∧ ∃ guard log s, p.ComesTo budget (.check guard 0) log s ∧
        guard.loop.test s.store = .ok true ∧ line = (guard.check s true).line ∧
          (guard.check s true).line = guard.loop.line.getD (Frame.lastLine 0 (Frame.addedOf log)) := by
  refine ⟨fun t h => ?_, fun limit line => ?_⟩
  · obtain ⟨r, runs, rfl⟩ := trace_eq_ok_iff.1 h
    obtain ⟨signed, issues, signs⟩ := runs.exists_signed (.boolean none true) trivial
    have stamps : Frame.stampAll clock signed = Frame.stampAll clock r.frames := by
      rw [← signs.unstamped]
      exact (Frame.stamps_unstampedOf signed clock).1.symm
    exact ⟨_, signed, issues, stamps,
      fun flow' signed' issues' same => issues.unique issues' (same.trans stamps.symm), signs.lined⟩
  · rw [trace_eq_error_iff]
    constructor
    · rintro ⟨stage, log, s, comes, halts⟩
      obtain ⟨limited, guard, rfl, checks, rfl⟩ := Stage.halts_tooManyRounds_iff.1 halts
      refine ⟨limited, guard, log, s, comes, checks, rfl, ?_⟩
      exact congrArg guard.loop.line.getD (Reaches.lastLine_eq comes)
    · rintro ⟨limited, guard, log, s, comes, checks, rfl, -⟩
      exact ⟨_, log, s, comes, Stage.halts_tooManyRounds_iff.2 ⟨limited, guard, rfl, checks, rfl⟩⟩

/-- A function, a loop and most of what is in the loop have no lines. -/
def skipsLines : Program where
  statements := [
    .declaration (some 3) "x" (.boolean none false),
    .function none "f" [] [.declaration (some 7) "y" (.boolean none false)],
    .loopUntil none (.identifier none "y") [
      .branch none (.identifier none "x") [.declaration (some 9) "y" (.boolean none true)] none,
      .declaration none "x" (.boolean none true),
      .print (some 5) (.identifier none "x")]]

/-- With two rounds, `skipsLines` has a trace in which lines are those of the last statements; with one
round, the fault has the line of the second check, which is that of the print. -/
theorem Program.frame_lines_skipsLines :
    (∃ t flow signed, skipsLines.trace (.limit 2) (.steps 0 1) = .ok t ∧
      (Frame.addedOf t.frames).map Frame.line =
        [3, 7, 3, 3, 3, 3, 4, 3, 5, 5, 5, 9, 10, 9, 5, 5, 11] ∧
      (Issuer.block skipsLines.statements).Issues flow signed ∧
      Frame.stampAll (.steps 0 1) signed = t.frames ∧
      ∀ before f after, Frame.addedOf signed = before ++ f :: after →
        ∃ outer, before = outer ++ Frame.addedOf f.inside ∧
          (f.isClosing = false → f.line = f.stamp.line.getD (Frame.lastLine 0 outer))) ∧
    skipsLines.trace (.limit 1) (.steps 0 1) = .error (.fault (.tooManyRounds 1 5)) ∧
      ∃ guard log s, skipsLines.ComesTo (.limit 1) (.check guard 0) log s ∧
        guard.loop.test s.store = .ok true ∧ 5 = (guard.check s true).line ∧
          (guard.check s true).line = guard.loop.line.getD (Frame.lastLine 0 (Frame.addedOf log)) := by
  have compiles : (skipsLines.trace (.limit 2) (.steps 0 1)).map
      (fun t => (Frame.addedOf t.frames).map Frame.line) =
        .ok [3, 7, 3, 3, 3, 3, 4, 3, 5, 5, 5, 9, 10, 9, 5, 5, 11] := by
    decide +kernel
  have fails : skipsLines.trace (.limit 1) (.steps 0 1) = .error (.fault (.tooManyRounds 1 5)) := rfl
  obtain ⟨t, h, lines⟩ := map_eq_ok_iff.1 compiles
  obtain ⟨flow, signed, issues, stamps, -, lined⟩ :=
    (Program.frame_lines skipsLines (.limit 2) (.steps 0 1)).1 t h
  have tooMany := (Program.frame_lines skipsLines (.limit 1) (.steps 0 1)).2 1 5
  exact ⟨⟨t, flow, signed, h, lines, issues, stamps, lined⟩, fails, (tooMany.1 fails).2⟩

end Playback
