import Playback.Proofs.Grammar
import Playback.Proofs.Limits

/-!
# Programs with more statements behind them

What runs first does not depend on what is written behind it. The frames that have been emitted stay as
they are, and so do their lines and times; a fault is met before anything else runs, and a return at the
top ends the program.

Main statement: a program with more statements behind it fails where the program fails, has the trace of
the program where this returns, and otherwise has a trace that begins with it, if it has one
(`Program.yields_append`).
-/

namespace Playback

/-- A phrase that is cut short has a return in its own list of frames. -/
lemma Phrase.Derives.any_isReturn {τ : Type} {rule : List UInt32 → UInt32 → Prop} {phrase : Phrase}
    {flow : Flow} {fs : List (Frame τ)} (derives : phrase.Derives rule flow fs)
    (returned : flow = .returned) : fs.any Frame.isReturn = true := by
  induction derives with
  | set | print | define | nil | stop => cases returned
  | ret => rfl
  | branch _ _ ih | loopUntil _ _ ih | loopFromTo _ _ ih => simp [ih returned]
  | returned _ ih => exact ih rfl
  | next _ _ _ ihgoes | again _ _ _ ihgoes | count _ _ _ ihgoes => simp [ihgoes returned]
  | cut _ ih => simp [ih rfl]

/-- A run is cut short exactly when there is a return among its frames, at any times. -/
lemma Runs.flow_eq_returned_iff {budget : Budget} {code : Code} {s : State} {r : Run}
    (runs : Runs budget code s r) (clock : Clock) :
    r.flow = .returned ↔ ∃ f ∈ Frame.stampAll clock r.frames, f.isReturn = true := by
  have derives := runs.derives.stampAll clock
  refine ⟨fun flow => List.any_eq_true.1 (derives.any_isReturn flow), fun ⟨f, mem, isReturn⟩ => ?_⟩
  cases flow : r.flow with
  | returned => rfl
  | next =>
    rw [derives.returns.noneBefore flow f mem] at isReturn
    cases isReturn

namespace Program

variable {first rest : List Node} {budget : Budget} {clock : Clock}

lemma trace_append_of_error {halt : Halt} (fails : trace budget clock ⟨first⟩ = .error halt) :
    trace budget clock ⟨first ++ rest⟩ = .error halt := by
  have halts : (Code.block first).run budget .initial = .error halt :=
    Code.halts_iff.2 (trace_eq_error_iff.1 fails)
  have whole := Code.run_append budget .initial first rest
  rw [halts, error_bind] at whole
  exact trace_eq_error_iff.2 (Code.halts_iff.1 whole)

lemma trace_append_of_return {t : Trace} (compiles : trace budget clock ⟨first⟩ = .ok t)
    (returns : ∃ f ∈ t.frames, f.isReturn = true) : trace budget clock ⟨first ++ rest⟩ = .ok t := by
  obtain ⟨r, runs, rfl⟩ := trace_eq_ok_iff.1 compiles
  have flow : r.flow = .returned := (runs.flow_eq_returned_iff clock).2 returns
  have whole := Code.run_append budget .initial first rest
  rw [runs.run_eq, ok_bind, flow] at whole
  exact trace_eq_ok_iff.2 ⟨r, Code.ends_iff.1 whole, rfl⟩

/-- Where the whole has a trace, its first part has one, and the whole begins with it. -/
lemma exists_trace_of_append {t' : Trace} (compiles : trace budget clock ⟨first ++ rest⟩ = .ok t') :
    ∃ t, trace budget clock ⟨first⟩ = .ok t ∧ t.frames <+: t'.frames := by
  obtain ⟨whole, runs, rfl⟩ := trace_eq_ok_iff.1 compiles
  have ends := runs.run_eq
  rw [Code.run_append] at ends
  obtain ⟨r, ends', goes⟩ := bind_eq_ok_iff.1 ends
  refine ⟨_, trace_eq_ok_iff.2 ⟨r, Code.ends_iff.1 ends', rfl⟩, ?_⟩
  cases flow : r.flow with
  | returned =>
    rw [flow] at goes
    cases goes
    exact List.prefix_refl _
  | next =>
    rw [flow] at goes
    obtain ⟨behind, -, heq⟩ := bind_eq_ok_iff.1 goes
    cases heq
    -- what follows is stamped by the clock that the first frames leave behind
    rw [Run.after_frames, Frame.stampAll_append]
    exact List.prefix_append ..

/-- Under every limit, with more statements behind it a program fails for the same cause, or has the same
trace if this has a return at the top. If the longer program has a trace, so has the program, and its
frames come first there, with their lines, their times and the bodies of their definitions. -/
theorem yields_append (first rest : List Node) (limit : Option Nat) (clock : Clock) :
    (∀ cause, Yields ⟨first⟩ limit clock (.error cause) →
      Yields ⟨first ++ rest⟩ limit clock (.error cause)) ∧
    (∀ t, Yields ⟨first⟩ limit clock (.ok t) → (∃ f ∈ t.frames, f.isReturn = true) →
      Yields ⟨first ++ rest⟩ limit clock (.ok t)) ∧
    ∀ t', Yields ⟨first ++ rest⟩ limit clock (.ok t') →
      ∃ t, Yields ⟨first⟩ limit clock (.ok t) ∧ t.frames <+: t'.frames := by
  cases limit with
  | some n =>
    exact ⟨fun _ => trace_append_of_error, fun _ => trace_append_of_return,
      fun _ => exists_trace_of_append⟩
  | none =>
    refine ⟨fun cause ⟨n, fails⟩ => ⟨n, trace_append_of_error fails⟩,
      fun t ⟨n, compiles⟩ returns => ⟨n, trace_append_of_return compiles returns⟩,
      fun t' ⟨n, compiles⟩ => ?_⟩
    obtain ⟨t, compiles', starts⟩ := exists_trace_of_append compiles
    exact ⟨t, ⟨n, compiles'⟩, starts⟩

end Program

/-- The length of a variable that is set by `setsInFunction`. -/
def printsLength : List Node :=
  [.print none (.length none "x")]

/-- A function that sets a variable and returns, in a branch; nothing is returned at the top. -/
def setsInFunction : List Node :=
  [.branch (some 4) (.boolean none true) [
    .function (some 5) "f" [] [.declaration (some 9) "x" (.string none "abc"), .ret none (.number none 1)]]
    none]

/-- A return at the top, in a branch. -/
def returnsInBranch : List Node :=
  [.branch (some 4) (.boolean none true) [.ret (some 5) (.string none "done")] none]

/-- Where the variable is not set, its length is not printed; behind the function it is, and behind the
return nothing runs. -/
theorem yields_append_printsLength :
    let clock := Clock.steps 10 5
    Program.Yields ⟨printsLength ++ setsInFunction⟩ none clock (.error (.undeclared "x")) ∧
    (∃ t, Program.Yields ⟨returnsInBranch⟩ none clock (.ok t) ∧
      Program.Yields ⟨returnsInBranch ++ printsLength⟩ none clock (.ok t)) ∧
    ∃ t t', Program.Yields ⟨setsInFunction ++ printsLength⟩ none clock (.ok t') ∧
      Program.Yields ⟨setsInFunction⟩ none clock (.ok t) ∧ t.frames <+: t'.frames := by
  intro clock
  have compiles (ns : List Node) (t : Trace) (h : Program.trace (.fuel 1) clock ⟨ns⟩ = .ok t) :
      Program.Yields ⟨ns⟩ none clock (.ok t) := ⟨1, h⟩
  obtain ⟨fails, -, -⟩ := Program.yields_append printsLength setsInFunction none clock
  obtain ⟨-, stops, -⟩ := Program.yields_append returnsInBranch printsLength none clock
  obtain ⟨-, -, starts⟩ := Program.yields_append setsInFunction printsLength none clock
  refine ⟨fails _ ⟨1, rfl⟩, ⟨_, compiles _ _ rfl, stops _ (compiles _ _ rfl) ?_⟩, ?_⟩
  · exact ⟨_, List.mem_cons_of_mem _ List.mem_cons_self, rfl⟩
  · obtain ⟨t, first, prefixed⟩ := starts _ (compiles _ _ rfl)
    exact ⟨t, _, compiles _ _ rfl, first, prefixed⟩

end Playback
