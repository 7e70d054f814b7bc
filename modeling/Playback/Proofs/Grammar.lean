import Playback.Proofs.Forest
import Playback.Proofs.Stages

/-!
# The grammar of traces

`Phrase.Derives` is a grammar for lists of frames, apart from any program. A block is a row of
statements; a branch and a loop stand between the frame that opens them and the one that closes them;
a loop repeats its check, with the condition of its header, before each round and once more at the
end, unless a return cuts the last round short. The grammar keeps track of returns: a phrase with the
flow `.returned` has one, and is cut short there.

What is asked of the line of a closing frame is a parameter: a relation between the lines of the block
and the line of its end. With none asked, the grammar is about the shape alone.

Main statement: every list of frames in a trace is a block of the grammar, and has at most one return,
behind which blocks are closed and nothing else happens (`Program.trace_derives`).
-/

namespace Playback

/-- The parts of a list of frames. -/
inductive Phrase where
  | statement
  /-- Statements one after another. -/
  | block
  /-- The checks of a loop and its rounds. A loop with a counter sets it behind each round. -/
  | rounds (condition : String) (counter : Option String)

/-- The phrase yields the list of frames. -/
inductive Phrase.Derives {τ : Type} (rule : List UInt32 → UInt32 → Prop) :
    Phrase → Flow → List (Frame τ) → Prop where
  | set {l t name type value} :
      Derives rule .statement .next [.plain l t (.set name type value)]
  | print {l t isLiteral name literal} :
      Derives rule .statement .next [.plain l t (.print isLiteral name literal)]
  | ret {l t value} : Derives rule .statement .returned [.plain l t (.ret value)]
  | define {l t name params flow body} (derives : Derives rule .block flow body) :
      Derives rule .statement .next [.define l t name params body]
  | branch {l t l' t' condition result flow fs} (derives : Derives rule .block flow fs)
      (closes : rule (Frame.linesOf (.plain l t (.check condition result) :: fs)) l') :
      Derives rule .statement flow
        (.plain l t (.check condition result) :: fs ++ [.plain l' t' .endBranch])
  | loopUntil {l t l' t' condition flow fs} (derives : Derives rule (.rounds condition none) flow fs)
      (closes : rule (Frame.linesOf (.plain l t (.loopUntil condition) :: fs)) l') :
      Derives rule .statement flow
        (.plain l t (.loopUntil condition) :: fs ++ [.plain l' t' (.endLoop .conditional)])
  | loopFromTo {ls ts name type value l t l' t' condition flow fs}
      (derives : Derives rule (.rounds condition (some name)) flow fs)
      (closes : rule (Frame.linesOf (.plain ls ts (.set name type value) ::
        .plain l t (.loopFromTo condition) :: fs)) l') :
      Derives rule .statement flow
        (.plain ls ts (.set name type value) :: .plain l t (.loopFromTo condition) :: fs ++
          [.plain l' t' (.endLoop .counting)])
  | nil : Derives rule .block .next []
  | returned {fs} (derives : Derives rule .statement .returned fs) :
      Derives rule .block .returned fs
  | next {flow fs gs} (derives : Derives rule .statement .next fs)
      (goes : Derives rule .block flow gs) : Derives rule .block flow (fs ++ gs)
  | stop {l t condition counter} :
      Derives rule (.rounds condition counter) .next [.plain l t (.check condition false)]
  | cut {l t condition counter fs} (derives : Derives rule .block .returned fs) :
      Derives rule (.rounds condition counter) .returned (.plain l t (.check condition true) :: fs)
  | again {l t condition flow fs gs} (derives : Derives rule .block .next fs)
      (goes : Derives rule (.rounds condition none) flow gs) :
      Derives rule (.rounds condition none) flow (.plain l t (.check condition true) :: fs ++ gs)
  | count {l t ls ts name type value condition flow fs gs} (derives : Derives rule .block .next fs)
      (goes : Derives rule (.rounds condition (some name)) flow gs) :
      Derives rule (.rounds condition (some name)) flow
        (.plain l t (.check condition true) :: fs ++ .plain ls ts (.set name type value) :: gs)

namespace Frame

variable {τ : Type}

/-- The frame is a return. -/
def isReturn : Frame τ → Bool
  | plain _ _ (.ret _) => true
  | _ => false

/-- The frame closes a branch or a loop. -/
def isClosing : Frame τ → Bool
  | plain _ _ .endBranch | plain _ _ (.endLoop _) => true
  | _ => false

/-- There is at most one return in the list, and behind it blocks are closed and nothing else
happens. -/
structure ReturnsLast (fs : List (Frame τ)) : Prop where
  atMostOne : fs.countP isReturn ≤ 1
  onlyClosing : fs.Pairwise fun f g => f.isReturn = true → g.isClosing = true

/-- Only closing frames stand behind a return, and there is no return where statements go on. -/
structure Returns (flow : Flow) (fs : List (Frame τ)) : Prop where
  onlyClosing : fs.Pairwise fun f g => f.isReturn = true → g.isClosing = true
  noneBefore : flow = .next → ∀ f ∈ fs, f.isReturn = false

lemma isReturn_of_isClosing {f : Frame τ} (h : f.isClosing = true) : f.isReturn = false := by
  cases f with
  | define => rfl
  | plain l t action => cases action <;> first | rfl | cases h

namespace Returns

variable {flow : Flow} {fs gs : List (Frame τ)}

lemma cons {f : Frame τ} (h : f.isReturn = false) (returns : Returns flow fs) :
    Returns flow (f :: fs) where
  onlyClosing := List.pairwise_cons.2
    ⟨fun _ _ hf => absurd hf (by simp [h]), returns.onlyClosing⟩
  noneBefore next := List.forall_mem_cons.2 ⟨h, returns.noneBefore next⟩

lemma append (first : Returns .next fs) (goes : Returns flow gs) : Returns flow (fs ++ gs) where
  onlyClosing := List.pairwise_append.2 ⟨first.onlyClosing, goes.onlyClosing,
    fun f hf _ _ hreturn => absurd hreturn (by simp [first.noneBefore rfl f hf])⟩
  noneBefore next := List.forall_mem_append.2 ⟨first.noneBefore rfl, goes.noneBefore next⟩

lemma close {f : Frame τ} (h : f.isClosing = true) (returns : Returns flow fs) :
    Returns flow (fs ++ [f]) where
  onlyClosing := List.pairwise_append.2 ⟨returns.onlyClosing, List.pairwise_singleton ..,
    fun _ _ g hg _ => by rwa [List.mem_singleton.1 hg]⟩
  noneBefore next := List.forall_mem_append.2
    ⟨returns.noneBefore next, by simpa using isReturn_of_isClosing h⟩

lemma single {f : Frame τ} (h : f.isReturn = false) : Returns flow [f] :=
  cons h ⟨.nil, by simp⟩

/-- There is at most one return where only closing frames stand behind one. -/
lemma returnsLast (returns : Returns flow fs) : ReturnsLast fs := by
  have onlyClosing := returns.onlyClosing
  refine ⟨?_, onlyClosing⟩
  clear returns
  induction fs with
  | nil => simp
  | cons f fs ih =>
    obtain ⟨behind, rest⟩ := List.pairwise_cons.1 onlyClosing
    cases h : f.isReturn with
    | false => simpa [h] using ih rest
    | true =>
      -- all that stands behind the return closes something
      have none : fs.countP isReturn = 0 := List.countP_eq_zero.2 fun g hg => by
        simp [isReturn_of_isClosing (behind g hg h)]
      simp [h, none]

end Returns

end Frame

/-- The line is the one behind the highest of the lines; there is none behind the greatest. -/
def ClosesBehind (ls : List UInt32) (l : UInt32) : Prop :=
  ∃ m, Frame.IsHighest m ls ∧ l.toNat = min (m.toNat + 1) (UInt32.size - 1)

namespace Phrase.Derives

variable {σ τ : Type} {rule : List UInt32 → UInt32 → Prop} {phrase : Phrase} {flow : Flow}

lemma mono {rule' : List UInt32 → UInt32 → Prop} {fs : List (Frame τ)}
    (h : ∀ ls l, rule ls l → rule' ls l) (derives : phrase.Derives rule flow fs) :
    phrase.Derives rule' flow fs := by
  induction derives with
  | set => exact .set
  | print => exact .print
  | ret => exact .ret
  | define _ ih => exact .define ih
  | branch _ closes ih => exact .branch ih (h _ _ closes)
  | loopUntil _ closes ih => exact .loopUntil ih (h _ _ closes)
  | loopFromTo _ closes ih => exact .loopFromTo ih (h _ _ closes)
  | nil => exact .nil
  | returned _ ih => exact .returned ih
  | next _ _ ih ihgoes => exact .next ih ihgoes
  | stop => exact .stop
  | cut _ ih => exact .cut ih
  | again _ _ ih ihgoes => exact .again ih ihgoes
  | count _ _ ih ihgoes => exact .count ih ihgoes

lemma stampAll {fs : List (Frame σ)} (derives : phrase.Derives rule flow fs) (clock : Clock) :
    phrase.Derives rule flow (Frame.stampAll clock fs) := by
  induction derives generalizing clock with
  | set => simpa using .set
  | print => simpa using .print
  | ret => simpa using .ret
  | define _ ih => simpa using .define (ih _)
  | branch _ closes ih =>
    rw [← Frame.linesOf_stampAll clock] at closes
    simp only [List.cons_append, Frame.stampAll_plain, Frame.stampAll_append] at closes ⊢
    exact .branch (ih _) closes
  | loopUntil _ closes ih =>
    rw [← Frame.linesOf_stampAll clock] at closes
    simp only [List.cons_append, Frame.stampAll_plain, Frame.stampAll_append] at closes ⊢
    exact .loopUntil (ih _) closes
  | loopFromTo _ closes ih =>
    rw [← Frame.linesOf_stampAll clock] at closes
    simp only [List.cons_append, Frame.stampAll_plain, Frame.stampAll_append] at closes ⊢
    exact .loopFromTo (ih _) closes
  | nil => exact .nil
  | returned _ ih => exact .returned (ih clock)
  | next _ _ ih ihgoes =>
    rw [Frame.stampAll_append]
    exact .next (ih _) (ihgoes _)
  | stop => simpa using .stop
  | cut _ ih => simpa using .cut (ih _)
  | again _ _ ih ihgoes =>
    simp only [List.cons_append, Frame.stampAll_plain, Frame.stampAll_append]
    exact .again (ih _) (ihgoes _)
  | count _ _ ih ihgoes =>
    simp only [List.cons_append, Frame.stampAll_plain, Frame.stampAll_append]
    exact .count (ih _) (ihgoes _)

/-- The bodies of the definitions in a phrase are blocks. -/
lemma bodies {fs body : List (Frame τ)} (derives : phrase.Derives rule flow fs)
    (h : body ∈ Frame.bodiesOf fs) : ∃ flow, Phrase.block.Derives rule flow body := by
  induction derives with
  | set => simp at h
  | print => simp at h
  | ret => simp at h
  | define derives ih =>
    simp only [Frame.bodiesOf_define, Frame.bodiesOf_nil, List.append_nil, List.mem_cons] at h
    rcases h with rfl | h
    · exact ⟨_, derives⟩
    · exact ih h
  | branch _ _ ih => exact ih (by simpa using h)
  | loopUntil _ _ ih => exact ih (by simpa using h)
  | loopFromTo _ _ ih => exact ih (by simpa using h)
  | nil => simp at h
  | returned _ ih => exact ih h
  | next _ _ ih ihgoes =>
    rw [Frame.bodiesOf_append, List.mem_append] at h
    exact h.elim ih ihgoes
  | stop => simp at h
  | cut _ ih => exact ih (by simpa using h)
  | again _ _ ih ihgoes =>
    rw [List.cons_append, Frame.bodiesOf_plain, Frame.bodiesOf_append, List.mem_append] at h
    exact h.elim ih ihgoes
  | count _ _ ih ihgoes =>
    rw [List.cons_append, Frame.bodiesOf_plain, Frame.bodiesOf_append, List.mem_append] at h
    exact h.elim ih ihgoes

/-- Only closing frames stand behind a return, and a phrase that is not cut short has none. -/
lemma returns {fs : List (Frame τ)} (derives : phrase.Derives rule flow fs) :
    Frame.Returns flow fs := by
  induction derives with
  | set => exact .single rfl
  | print => exact .single rfl
  | ret => exact ⟨List.pairwise_singleton .., nofun⟩
  | define => exact .single rfl
  | branch _ _ ih => exact .close rfl (.cons rfl ih)
  | loopUntil _ _ ih => exact .close rfl (.cons rfl ih)
  | loopFromTo _ _ ih => exact .close rfl (.cons rfl (.cons rfl ih))
  | nil => exact ⟨.nil, by simp⟩
  | returned _ ih => exact ih
  | next _ _ ih ihgoes => exact ih.append ihgoes
  | stop => exact .single rfl
  | cut _ ih => exact .cons rfl ih
  | again _ _ ih ihgoes => exact .append (.cons rfl ih) ihgoes
  | count _ _ ih ihgoes => exact .append (.cons rfl ih) (.cons rfl ihgoes)

end Phrase.Derives

/-! ## Runs -/

/-- The counter that a loop sets behind each round. -/
def Guard.counter? : Guard → Option String
  | conditional .. => none
  | counting _ counter _ => some counter

/-- The part of a list of frames that a code yields. -/
def Code.phrase : Code → Phrase
  | statement _ => .statement
  | block _ => .block
  | rounds guard _ _ => .rounds guard.loop.condition guard.counter?

lemma closesBehind_lineAfter {fs : List (Frame Unit)} (h : fs ≠ []) :
    ClosesBehind (Frame.linesOf fs) (Frame.lineAfter (Frame.highestOf 0 fs)) :=
  ⟨_, Frame.isHighest_highestOf h, Frame.toNat_lineAfter _⟩

/-- The frames of a run are a phrase, and blocks are closed behind their highest lines. -/
lemma Runs.derives {budget code s r} (runs : Runs budget code s r) :
    code.phrase.Derives ClosesBehind r.flow r.frames := by
  induction runs with
  | declaration => exact .set
  | print prints =>
    rcases Node.printed_cases prints with ⟨name, v, -, rfl⟩ | ⟨literal, rfl⟩
    · exact .print
    · exact .print
  | branch _ _ ih => exact .branch ih (closesBehind_lineAfter (by simp))
  | loopUntil _ ih => exact .loopUntil ih (closesBehind_lineAfter (by simp))
  | loopFromTo _ sets _ ih =>
    subst sets
    exact .loopFromTo ih (closesBehind_lineAfter (by simp))
  | function _ ih => exact .define ih
  | ret => exact .ret
  | nil => exact .nil
  | returned _ flow ih =>
    rw [flow] at ih ⊢
    exact .returned ih
  | next _ flow _ ih ihgoes =>
    rw [flow] at ih
    exact .next ih ihgoes
  | stop => exact .stop
  | cut _ _ flow ih =>
    rw [flow] at ih
    rw [Run.after_flow, flow]
    exact .cut ih
  | @again guard body left s round step rest _ _ flow advances _ ih ihgoes =>
    rw [flow] at ih
    -- a loop with a counter sets it behind the round, and the other one does nothing there
    cases guard with
    | conditional line condition =>
      rw [Guard.advance_conditional advances]
      simpa using .again ih ihgoes
    | counting line counter last =>
      obtain ⟨x, -, rfl⟩ := Guard.advance_counting advances
      simpa using .count ih ihgoes

lemma Program.derives_trace {p : Program} {budget : Budget} {clock : Clock} {t : Trace}
    (h : p.trace budget clock = .ok t) {fs : List (Frame UInt64)}
    (hfs : fs ∈ Frame.lists t.frames) : ∃ flow, Phrase.block.Derives ClosesBehind flow fs := by
  obtain ⟨r, runs, rfl⟩ := trace_eq_ok_iff.1 h
  have derives := runs.derives.stampAll clock
  -- the list is the trace itself, or the body of a definition in it
  rcases List.mem_cons.1 hfs with rfl | hbody
  · exact ⟨_, derives⟩
  · exact derives.bodies hbody

/-- Every list of frames in a trace is a block of the grammar. It has at most one return, and behind
it blocks are closed and nothing else happens. -/
theorem Program.trace_derives {p : Program} {budget : Budget} {clock : Clock} {t : Trace}
    (h : p.trace budget clock = .ok t) : ∀ fs ∈ Frame.lists t.frames,
      (∃ flow, Phrase.block.Derives (fun _ _ => True) flow fs) ∧ Frame.ReturnsLast fs := by
  intro fs hfs
  obtain ⟨flow, derives⟩ := derives_trace h hfs
  have shape : Phrase.block.Derives (fun _ _ => True) flow fs := derives.mono fun _ _ _ => trivial
  exact ⟨⟨flow, shape⟩, derives.returns.returnsLast⟩

/-- A function whose loop is left by a return in its second round, and a loop behind it. -/
def leavesLoop : Program where
  statements := [
    .function (some 1) "find" ["limit"] [
      .loopFromTo (some 2) "i" (.number none 1.0) (.number none 3.0) [
        .branch (some 3) (.expression none (some (.identifier none "i")) .equal
          (some (.number none 2.0))) [.ret (some 4) (.identifier none "i")] none]],
    .declaration (some 5) "done" (.boolean none false),
    .loopUntil none (.identifier none "done") [
      .declaration (some 6) "done" (.boolean none true)]]

/-- The trace of `leavesLoop` is derived. -/
theorem trace_derives_leavesLoop :
    ∃ t, leavesLoop.trace (.limit 5) (.steps 0 1) = .ok t ∧
      ∀ fs ∈ Frame.lists t.frames,
        (∃ flow, Phrase.block.Derives (fun _ _ => True) flow fs) ∧ Frame.ReturnsLast fs := by
  have compiles : ∃ t, leavesLoop.trace (.limit 5) (.steps 0 1) = .ok t := ⟨_, rfl⟩
  obtain ⟨t, h⟩ := compiles
  exact ⟨t, h, Program.trace_derives h⟩

end Playback
