import Playback.Proofs.Rounds
import Playback.Proofs.Stages

/-!
# Limits on rounds

A program is compared with itself under two budgets. Under the larger one it does the same, unless the
smaller one does not suffice; so a limit that is not met is not to be seen in what is compiled, and one
that is met shows in a fault that names it. `Program.Yields` is what a program compiles to under a limit
or under none; without a limit, a program has a result when some number of rounds suffices for it.

Main statement: what a program yields under a limit, compared with what it yields under a larger one or
under none, where the rounds of the loops in its trace decide whether the limit is met
(`Program.yields_limit`).
-/

namespace Playback

/-! ## More rounds -/

/-- The code with `extra` rounds more to go, if it is the rest of a loop. -/
def Code.more (extra : Nat) : Code → Code
  | rounds guard body left => rounds guard body (left + extra)
  | code => code

/-- The stage with `extra` rounds more to go. -/
def Stage.more (extra : Nat) : Stage → Stage
  | check guard left => check guard (left + extra)
  | stage => stage

section

variable {budget budget' : Budget} {extra : Nat}

lemma Runs.more {code s r} (runs : Runs budget code s r)
    (h : budget'.rounds = budget.rounds + extra) : Runs budget' (code.more extra) s r := by
  obtain ⟨own, counts, costs⟩ := runs.costs
  have within : ∀ k ∈ counts, k ≤ budget'.rounds := fun k hk => by
    have := costs.within k hk
    omega
  cases code with
  | statement n => exact costs.affordable budget' own within (Nat.le_refl _)
  | block ns => exact costs.affordable budget' own within (Nat.le_refl _)
  | rounds guard body left =>
    have hleft : own ≤ left + extra := Nat.le_trans costs.allows (Nat.le_add_right ..)
    exact costs.affordable budget' (left + extra) within hleft

lemma Reaches.more {code s stage log s'} (reaches : Reaches budget code s stage log s')
    (h : budget'.rounds = budget.rounds + extra) :
    Reaches budget' (code.more extra) s (stage.more extra) log s' := by
  induction reaches with
  | statement => exact .statement
  | branch checks _ ih => exact .branch checks ih
  | loopUntil _ ih =>
    refine .loopUntil ?_
    rw [h]
    exact ih
  | loopFromTo starts sets _ ih =>
    refine .loopFromTo starts sets ?_
    rw [h]
    exact ih
  | function _ ih => exact .function ih
  | first _ ih => exact .first ih
  | next runs flow _ ih => exact .next (runs.more h) flow ih
  | check => exact .check
  | round checks _ ih =>
    rw [Code.more, Nat.add_right_comm]
    exact .round checks ih
  | advance checks runs flow =>
    rw [Code.more, Nat.add_right_comm]
    exact .advance checks (runs.more h) flow
  | again checks runs flow advances _ ih =>
    rw [Code.more, Nat.add_right_comm]
    exact .again checks (runs.more h) flow advances ih
  | ended runs => exact .ended (runs.more h)

/-- A stage halts for the same cause, unless no round is left. -/
lemma Stage.Halts.more {stage : Stage} {s : State} {halt : Halt} (halts : stage.Halts budget s halt)
    (spare : ∀ line, halt ≠ budget.overrun line) : (stage.more extra).Halts budget' s halt := by
  cases halts with
  | declaration fails => exact .declaration fails
  | print fails => exact .print fails
  | branch fails => exact .branch fails
  | loopFromTo fails => exact .loopFromTo fails
  | misplaced expression => exact .misplaced expression
  | check fails => exact .check fails
  | overrun checks => exact absurd rfl (spare _)
  | advance fails => exact .advance fails

/-- With more rounds to go, a code does the same, unless it ran out of rounds. -/
lemma Code.run_more {code : Code} {s : State} (h : budget'.rounds = budget.rounds + extra)
    (spare : ∀ line, code.run budget s ≠ .error (budget.overrun line)) :
    (code.more extra).run budget' s = code.run budget s := by
  cases hrun : code.run budget s with
  | ok r => exact ((ends_iff.1 hrun).more h).run_eq
  | error halt =>
    obtain ⟨stage, log, s', reaches, halts⟩ := halts_iff.1 hrun
    have spared : ∀ line, halt ≠ budget.overrun line := fun line overruns =>
      spare line (hrun.trans (congrArg _ overruns))
    exact (reaches.more h).run_eq (halts.more spared)

end

/-- Under a limit, every halt is for a cause. -/
lemma Stage.Halts.exists_cause {limit : Nat} {stage : Stage} {s : State} {halt : Halt}
    (halts : stage.Halts (.limit limit) s halt) : ∃ cause, halt = .fault cause := by
  cases halts with
  | declaration | print | branch | loopFromTo | misplaced | check | overrun | advance =>
    exact ⟨_, rfl⟩

lemma haltOn_injective {α : Type} {x y : Except Fault α} (h : haltOn x = haltOn y) : x = y := by
  cases x with
  | ok a =>
    cases y with
    | ok b => rw [Except.ok.inj h]
    | error cause => cases h
  | error cause =>
    cases y with
    | ok b => cases h
    | error cause' => rw [Halt.fault.inj (Except.error.inj h)]

namespace Program

variable {p : Program} {budget budget' : Budget} {clock : Clock} {t : Trace}

/-- What a program compiles to, under a limit on the rounds of each loop or under none. -/
def Yields (p : Program) (limit : Option Nat) (clock : Clock) (result : Except Fault Trace) : Prop :=
  match limit with
  | some n => p.trace (.limit n) clock = haltOn result
  -- a loop without a limit ends when it ends after some number of rounds
  | none => ∃ n, p.trace (.fuel n) clock = haltOn result

lemma trace_more (h : budget.rounds ≤ budget'.rounds)
    (spare : ∀ line, p.trace budget clock ≠ .error (budget.overrun line)) :
    p.trace budget' clock = p.trace budget clock := by
  obtain ⟨extra, heq⟩ := Nat.exists_eq_add_of_le h
  have hrun : Node.runAll budget' p.statements .initial = Node.runAll budget p.statements .initial := by
    refine (Code.run_more heq fun line fails => spare line ?_ :
      ((Code.block p.statements).more extra).run budget' .initial = _)
    rw [trace_eq, show (Code.block p.statements).run budget .initial = _ from fails, error_bind]
  rw [trace_eq, trace_eq, show (Code.block p.statements).run budget' .initial = _ from hrun]
  rfl

/-- The program has its trace under the budgets that its loops keep to, and under no other. -/
lemma trace_eq_ok_iff_loopRounds (h : p.trace budget' clock = .ok t) :
    p.trace budget clock = .ok t ↔ ∀ k ∈ t.loopRounds, k ≤ budget.rounds := by
  have rounds_eq : ∀ {budget r own counts}, Costs budget (.block p.statements) .initial r own counts →
      (Trace.mk (Frame.stampAll clock r.frames)).loopRounds = counts := by
    intro budget r own counts costs
    have htally := costs.tallies [] []
    rw [Trace.loopRounds, Frame.tallyOf_stampAll, htally, List.append_nil]
  constructor
  · intro h
    obtain ⟨r, runs, rfl⟩ := trace_eq_ok_iff.1 h
    obtain ⟨own, counts, costs⟩ := runs.costs
    rw [rounds_eq costs]
    exact costs.within
  · intro within
    obtain ⟨r, runs, rfl⟩ := trace_eq_ok_iff.1 h
    obtain ⟨own, counts, costs⟩ := runs.costs
    rw [rounds_eq costs] at within
    exact trace_eq_ok_iff.2 ⟨r, costs.affordable budget own within (Nat.le_refl _), rfl⟩

lemma exists_yields (p : Program) (limit : Nat) (clock : Clock) :
    ∃ result, p.Yields (some limit) clock result := by
  cases h : p.trace (.limit limit) clock with
  | ok t => exact ⟨.ok t, h⟩
  | error halt =>
    obtain ⟨stage, log, s', -, halts⟩ := trace_eq_error_iff.1 h
    obtain ⟨cause, rfl⟩ := halts.exists_cause
    exact ⟨.error cause, h⟩

/-- A program yields one result at most. -/
lemma Yields.unique {limit : Option Nat} {result result' : Except Fault Trace}
    (yields : p.Yields limit clock result) (yields' : p.Yields limit clock result') :
    result' = result := by
  cases limit with
  | some n => exact haltOn_injective (yields'.symm.trans yields)
  | none =>
    obtain ⟨n, h⟩ := yields
    obtain ⟨n', h'⟩ := yields'
    have finished : ∀ {result : Except Fault Trace} line,
        haltOn result ≠ .error (Budget.overrun line (.fuel n)) := by
      intro result line
      cases result <;> exact nofun
    rcases Nat.le_total n n' with le | le
    · have heq : p.trace (.fuel n') clock = p.trace (.fuel n) clock :=
        trace_more le fun line => h ▸ finished line
      exact haltOn_injective (h'.symm.trans (heq.trans h))
    · have heq : p.trace (.fuel n) clock = p.trace (.fuel n') clock :=
        trace_more le fun line => h' ▸ finished line
      exact haltOn_injective (h'.symm.trans (heq.symm.trans h))

/-- A limit that is not met makes no difference to a greater one, nor to none. -/
lemma Yields.of_spare {n : Nat} {limit : Option Nat} {result : Except Fault Trace}
    (h : ∀ m ∈ limit, n ≤ m) (yields : p.Yields (some n) clock result)
    (spare : ∀ line, result ≠ .error (.tooManyRounds n line)) : p.Yields limit clock result := by
  have spared : ∀ line, p.trace (.limit n) clock ≠ .error (Budget.overrun line (.limit n)) := by
    intro line overruns
    exact spare line (haltOn_injective (yields.symm.trans overruns))
  cases limit with
  | some m =>
    have le : (Budget.limit n).rounds ≤ (Budget.limit m).rounds := h m rfl
    exact (trace_more le spared).trans yields
  | none =>
    have le : (Budget.limit n).rounds ≤ (Budget.fuel n).rounds := Nat.le_refl n
    exact ⟨n, (trace_more le spared).trans yields⟩

/-- Under a smaller limit a program yields the same, or the limit is met. -/
lemma Yields.under {n : Nat} {limit : Option Nat} {result : Except Fault Trace}
    (h : ∀ m ∈ limit, n ≤ m) (yields : p.Yields limit clock result) :
    p.Yields (some n) clock result ∨
      ∃ line, p.Yields (some n) clock (.error (.tooManyRounds n line)) := by
  obtain ⟨result', yields'⟩ := p.exists_yields n clock
  by_cases spare : ∀ line, result' ≠ .error (.tooManyRounds n line)
  · have same := (Yields.of_spare h yields' spare).unique yields
    rw [same]
    exact .inl yields'
  · obtain ⟨line, met⟩ := Classical.not_forall.1 spare
    rw [Classical.not_not.1 met] at yields'
    exact .inr ⟨line, yields'⟩

/-- A program yields one result under a limit. If the limit is not met, this is what it yields under a
greater limit and under none. If the program has a trace there, the smaller limit is met exactly when a
loop in this trace has more rounds; and if it fails there, it fails under the smaller limit, for this
cause or because the limit is met. -/
theorem yields_limit (p : Program) (clock : Clock) {n : Nat} {limit : Option Nat}
    (h : ∀ m ∈ limit, n ≤ m) :
    (∃ result, p.Yields (some n) clock result) ∧
    (∀ result, p.Yields (some n) clock result →
      (∀ k line, result ≠ .error (.tooManyRounds k line)) →
      ∀ result', p.Yields limit clock result' ↔ result' = result) ∧
    (∀ t, p.Yields limit clock (.ok t) →
      ((∀ k ∈ t.loopRounds, k ≤ n) → p.Yields (some n) clock (.ok t)) ∧
      ((∃ k ∈ t.loopRounds, n < k) →
        ∃ line, p.Yields (some n) clock (.error (.tooManyRounds n line)))) ∧
    ∀ cause, p.Yields limit clock (.error cause) → (∀ k line, cause ≠ .tooManyRounds k line) →
      p.Yields (some n) clock (.error cause) ∨
        ∃ line, p.Yields (some n) clock (.error (.tooManyRounds n line)) := by
  refine ⟨p.exists_yields n clock, fun result yields spare result' => ?_, fun t yields => ?_,
    fun cause yields _ => yields.under h⟩
  · have yields' : p.Yields limit clock result := yields.of_spare h (spare n)
    exact ⟨yields'.unique, fun same => same ▸ yields'⟩
  · obtain ⟨budget, compiles⟩ : ∃ budget, p.trace budget clock = .ok t := by
      cases limit with
      | some m => exact ⟨_, yields⟩
      | none => exact ⟨_, yields.choose_spec⟩
    have keeps : p.trace (.limit n) clock = .ok t ↔ ∀ k ∈ t.loopRounds, k ≤ n :=
      trace_eq_ok_iff_loopRounds compiles
    refine ⟨keeps.2, fun ⟨k, hk, more⟩ => ?_⟩
    rcases yields.under h with yields' | met
    · exact absurd (keeps.1 yields' k hk) (Nat.not_le.2 more)
    · exact met

end Program

/-- A loop of one round, with a loop of two rounds in it. -/
def nestedLoops : Program where
  statements := [
    .declaration (some 1) "done" (.boolean none false),
    .loopUntil (some 2) (.identifier none "done") [
      .declaration (some 3) "done" (.boolean none true),
      .loopFromTo (some 4) "i" (.number none 1) (.number none 2) []]]

/-- One round is too few for the inner loop of `nestedLoops`. -/
theorem yields_limit_nestedLoops :
    ∃ t, nestedLoops.Yields none (.steps 0 1) (.ok t) ∧ t.loopRounds = [1, 2] ∧
      nestedLoops.Yields (some 2) (.steps 0 1) (.ok t) ∧
      ∃ line, nestedLoops.Yields (some 1) (.steps 0 1) (.error (.tooManyRounds 1 line)) := by
  have compiles : ∃ t, nestedLoops.trace (.fuel 3) (.steps 0 1) = .ok t ∧ t.loopRounds = [1, 2] :=
    ⟨_, rfl, rfl⟩
  obtain ⟨t, h, rounds_eq⟩ := compiles
  have yields : nestedLoops.Yields none (.steps 0 1) (.ok t) := ⟨3, h⟩
  have unlimited (n : Nat) : ∀ m ∈ (none : Option Nat), n ≤ m := fun m mem => by cases mem
  obtain ⟨-, -, two, -⟩ := nestedLoops.yields_limit (.steps 0 1) (unlimited 2)
  obtain ⟨-, -, one, -⟩ := nestedLoops.yields_limit (.steps 0 1) (unlimited 1)
  refine ⟨t, yields, rounds_eq, (two t yields).1 ?_, (one t yields).2 ?_⟩
  · rw [rounds_eq]
    decide
  · exact ⟨2, by simp [rounds_eq], by decide⟩

end Playback
