import Playback.Compilation
import Playback.Proofs.Forest
import Playback.Proofs.Rules

/-!
# Rounds of loops

How many rounds the loops of a trace have can be read off its frames, when they are read backwards: the
end of a loop is met first, then its checks, and at last its header. `Trace.loopRounds` lists the number
of true checks for each run of a loop, in the bodies of functions too. The check of a branch is told from
that of a loop by what is open behind it.

Main statement: the rules that derive a run ask of the budget only that it allows these numbers of
rounds, so that a run is the same under every budget that does (`Runs.costs`).
-/

namespace Playback

/-- What is open where frames are read backwards. -/
inductive Opened where
  | branch
  /-- A loop, with the number of its true checks so far. -/
  | loop (rounds : Nat)
deriving DecidableEq

/-- What has been learnt of the loops where frames are read backwards. -/
structure Tally where
  opened : List Opened
  /-- The numbers of rounds of the loops that have been read whole. -/
  rounds : List Nat
deriving DecidableEq

/-- What is known before an action, given what is known behind it. -/
def Action.tally : Action → Tally → Tally
  | endBranch, t => { t with opened := .branch :: t.opened }
  | endLoop _, t => { t with opened := .loop 0 :: t.opened }
  -- where a branch is open, the check opens it; where a loop is, the check begins one of its rounds
  | check .., ⟨.branch :: opened, rounds⟩ => ⟨opened, rounds⟩
  | check _ result, ⟨.loop n :: opened, rounds⟩ => ⟨.loop (n + result.toNat) :: opened, rounds⟩
  | loopUntil _, ⟨.loop n :: opened, rounds⟩ => ⟨opened, n :: rounds⟩
  | loopFromTo _, ⟨.loop n :: opened, rounds⟩ => ⟨opened, n :: rounds⟩
  | _, t => t

namespace Frame

variable {σ τ : Type}

mutual

/-- What is known before a frame. Nothing is open behind the body of a definition. -/
def tally : Frame τ → Tally → Tally
  | plain _ _ action, t => action.tally t
  | define _ _ _ _ body, t => { t with rounds := (tallyOf body ⟨[], t.rounds⟩).rounds }

/-- What is known before frames. -/
def tallyOf : List (Frame τ) → Tally → Tally
  | [], t => t
  | f :: fs, t => tally f (tallyOf fs t)

end

@[simp] lemma tallyOf_nil (t : Tally) : tallyOf ([] : List (Frame τ)) t = t := rfl

@[simp] lemma tallyOf_plain (line : UInt32) (stamp : τ) (action : Action) (fs : List (Frame τ))
    (t : Tally) : tallyOf (.plain line stamp action :: fs) t = action.tally (tallyOf fs t) := rfl

@[simp] lemma tallyOf_define (line : UInt32) (stamp : τ) (name : String) (params : List String)
    (body fs : List (Frame τ)) (t : Tally) :
    tallyOf (.define line stamp name params body :: fs) t =
      ⟨(tallyOf fs t).opened, (tallyOf body ⟨[], (tallyOf fs t).rounds⟩).rounds⟩ := rfl

@[simp] lemma tallyOf_append (fs gs : List (Frame τ)) (t : Tally) :
    tallyOf (fs ++ gs) t = tallyOf fs (tallyOf gs t) := by
  induction fs with
  | nil => rfl
  | cons f fs ih => rw [List.cons_append, tallyOf, tallyOf, ih]

@[simp] lemma tallyOf_stampAll (clock : Clock) (fs : List (Frame σ)) (t : Tally) :
    tallyOf (stampAll clock fs) t = tallyOf fs t := by
  induction fs using forest_induction generalizing clock t with
  | nil => rfl
  | plain line stamp action fs ih => simp [ih]
  | define line stamp name params body fs ihbody ih => simp [ih, ihbody]

end Frame

/-- The number of rounds of each run of a loop in the trace. -/
def Trace.loopRounds (t : Trace) : List Nat :=
  (Frame.tallyOf t.frames ⟨[], []⟩).rounds

/-! ## Runs -/

namespace Code

/-- The code with `left` rounds to go, if it is the rest of a loop. -/
def allotted (left : Nat) : Code → Code
  | rounds guard body _ => rounds guard body left
  | code => code

/-- The rounds to go allow `own` of them. -/
def Allows (own : Nat) : Code → Prop
  | rounds _ _ left => own ≤ left
  | _ => own = 0

/-- The frames of the code have loops of `counts` rounds, and begin `own` rounds of the loop that they
are in. -/
def Tallies (fs : List (Frame Unit)) (own : Nat) (counts : List Nat) : Code → Prop
  | rounds .. => ∀ n opened read,
    Frame.tallyOf fs ⟨.loop n :: opened, read⟩ = ⟨.loop (n + own) :: opened, counts ++ read⟩
  | _ => ∀ opened read, Frame.tallyOf fs ⟨opened, read⟩ = ⟨opened, counts ++ read⟩

end Code

/-- What a run costs: its loops have `counts` rounds, and it runs under every budget that allows these
and `own` rounds of the loop that it is the rest of. -/
structure Costs (budget : Budget) (code : Code) (s : State) (r : Run) (own : Nat)
    (counts : List Nat) : Prop where
  tallies : code.Tallies r.frames own counts
  within : ∀ k ∈ counts, k ≤ budget.rounds
  allows : code.Allows own
  affordable : ∀ (budget' : Budget) (left : Nat), (∀ k ∈ counts, k ≤ budget'.rounds) → own ≤ left →
    Runs budget' (code.allotted left) s r

namespace Costs

variable {budget : Budget} {s : State} {r : Run}

/-- Without loops, a run costs nothing. -/
lemma free {n : Node} (runs : ∀ budget, Runs budget (.statement n) s r)
    (tallies : (Code.statement n).Tallies r.frames 0 []) :
    Costs budget (.statement n) s r 0 [] where
  tallies := tallies
  within := by simp
  allows := rfl
  affordable budget' left _ _ := runs budget'

variable {line : Option UInt32} {body : List Node} {inner : Run} {own : Nat} {counts : List Nat}

lemma loopUntil {condition : Node}
    (costs : Costs budget (.rounds (.conditional line condition) body budget.rounds) (s.passed line)
      inner own counts) :
    Costs budget (.statement (.loopUntil line condition body)) s
      ((inner.after [s.frame line (.loopUntil condition.negated.text)]).closed
        (.endLoop .conditional)) 0 (own :: counts) where
  tallies opened read := by
    have htally := costs.tallies 0 opened read
    rw [Nat.zero_add] at htally
    simp [Frame.closed, State.frame, Action.tally, htally]
  within := List.forall_mem_cons.2 ⟨costs.allows, costs.within⟩
  allows := rfl
  affordable budget' _ h _ := by
    obtain ⟨hown, hcounts⟩ := List.forall_mem_cons.1 h
    exact .loopUntil (costs.affordable budget' _ hcounts hown)

lemma loopFromTo {counter : String} {first last : Node} {x : Float} {start : Run}
    (starts : first.evaluateNumber s.store "from_to" = .ok x)
    (sets : start = s.assign line counter (.number x))
    (costs : Costs budget (.rounds (.counting line counter last) body budget.rounds)
      (start.state.passed line) inner own counts) :
    Costs budget (.statement (.loopFromTo line counter first last body)) s
      ((inner.after (start.frames ++ [start.state.frame line
        (.loopFromTo (Operator.lessEq.applied counter last.text))])).closed (.endLoop .counting))
      0 (own :: counts) where
  tallies opened read := by
    have htally := costs.tallies 0 opened read
    rw [Nat.zero_add] at htally
    subst sets
    simp [Frame.closed, State.assign, State.step, State.frame, Action.tally, htally]
  within := List.forall_mem_cons.2 ⟨costs.allows, costs.within⟩
  allows := rfl
  affordable budget' _ h _ := by
    obtain ⟨hown, hcounts⟩ := List.forall_mem_cons.1 h
    exact .loopFromTo starts sets (costs.affordable budget' _ hcounts hown)

lemma next {n : Node} {ns : List Node} {first rest : Run} {own' : Nat} {counts' : List Nat}
    (flow : first.flow = .next) (costs : Costs budget (.statement n) s first own counts)
    (goes : Costs budget (.block ns) first.state rest own' counts') :
    Costs budget (.block (n :: ns)) s (rest.after first.frames) 0 (counts ++ counts') where
  tallies opened read := by
    rw [Run.after_frames, Frame.tallyOf_append, goes.tallies, costs.tallies, List.append_assoc]
  within := List.forall_mem_append.2 ⟨costs.within, goes.within⟩
  allows := rfl
  affordable budget' _ h _ := by
    obtain ⟨hfirst, hrest⟩ := List.forall_mem_append.1 h
    exact .next (costs.affordable budget' _ hfirst (Nat.le_refl _)) flow
      (goes.affordable budget' _ hrest (Nat.le_refl _))

variable {guard : Guard} {left : Nat} {round : Run}

/-- What is done behind a round opens and closes nothing. -/
lemma tallyOf_advance {step : Run} (advances : guard.loop.advance s = .ok step) (t : Tally) :
    Frame.tallyOf step.frames t = t := by
  cases guard with
  | conditional line condition =>
    rw [Guard.advance_conditional advances]
    rfl
  | counting line counter last =>
    obtain ⟨x, -, rfl⟩ := Guard.advance_counting advances
    rfl

lemma cut (checks : guard.loop.test s.store = .ok true) (flow : round.flow = .returned)
    (costs : Costs budget (.block body) (s.passed guard.loop.line) round own counts) :
    Costs budget (.rounds guard body (left + 1)) s (round.after [guard.check s true]) 1 counts where
  tallies n opened read := by
    rw [Run.after_frames, Frame.tallyOf_append, costs.tallies]
    rfl
  within := costs.within
  allows := Nat.succ_le_succ (Nat.zero_le left)
  affordable budget' left' h hown := by
    obtain ⟨left', rfl⟩ := Nat.exists_eq_add_of_le' hown
    exact .cut checks (costs.affordable budget' _ h (Nat.le_refl _)) flow

lemma again {step rest : Run} {own' : Nat} {counts' : List Nat}
    (checks : guard.loop.test s.store = .ok true) (flow : round.flow = .next)
    (advances : guard.loop.advance round.state = .ok step)
    (costs : Costs budget (.block body) (s.passed guard.loop.line) round own counts)
    (goes : Costs budget (.rounds guard body left) step.state rest own' counts') :
    Costs budget (.rounds guard body (left + 1)) s
      (rest.after (guard.check s true :: round.frames ++ step.frames)) (own' + 1)
      (counts ++ counts') where
  tallies n opened read := by
    have htally := costs.tallies (.loop (n + own') :: opened) (counts' ++ read)
    rw [Run.after_frames, Frame.tallyOf_append, goes.tallies n, Frame.tallyOf_append,
      tallyOf_advance advances, Guard.check, State.frame, Frame.tallyOf_plain, htally,
      List.append_assoc]
    rfl
  within := List.forall_mem_append.2 ⟨costs.within, goes.within⟩
  allows := Nat.succ_le_succ goes.allows
  affordable budget' left' h hown := by
    obtain ⟨left', rfl⟩ := Nat.exists_eq_add_of_le' (Nat.le_trans (Nat.le_add_left 1 _) hown)
    obtain ⟨hround, hrest⟩ := List.forall_mem_append.1 h
    exact .again checks (costs.affordable budget' _ hround (Nat.le_refl _)) flow advances
      (goes.affordable budget' left' hrest (Nat.le_of_succ_le_succ hown))

end Costs

/-- Every run costs the rounds of the loops in its frames. -/
theorem Runs.costs {budget code s r} (runs : Runs budget code s r) :
    ∃ own counts, Costs budget code s r own counts := by
  induction runs with
  | declaration evaluates =>
    exact ⟨0, [], .free (fun _ => .declaration evaluates) fun _ _ => rfl⟩
  | print prints =>
    refine ⟨0, [], .free (fun _ => .print prints) fun _ _ => ?_⟩
    rcases Node.printed_cases prints with ⟨name, v, -, rfl⟩ | ⟨literal, rfl⟩
    · rfl
    · rfl
  | @branch line condition _ _ s _ _ checks _ ih =>
    obtain ⟨own, counts, costs⟩ := ih
    refine ⟨0, counts, fun opened read => ?_, costs.within, rfl, fun budget' left h _ => ?_⟩
    · have htally := costs.tallies (.branch :: opened) read
      simp [Frame.closed, State.frame, Action.tally, htally]
    · exact .branch checks (costs.affordable budget' left h (costs.allows ▸ Nat.zero_le _))
  | loopUntil _ ih =>
    obtain ⟨own, counts, costs⟩ := ih
    exact ⟨0, own :: counts, costs.loopUntil⟩
  | loopFromTo starts sets _ ih =>
    obtain ⟨own, counts, costs⟩ := ih
    exact ⟨0, own :: counts, .loopFromTo starts sets costs⟩
  | function _ ih =>
    obtain ⟨own, counts, costs⟩ := ih
    refine ⟨0, counts, fun opened read => ?_, costs.within, rfl, fun budget' left h _ => ?_⟩
    · have htally := costs.tallies [] read
      simp [htally]
    · exact .function (costs.affordable budget' left h (costs.allows ▸ Nat.zero_le _))
  | ret => exact ⟨0, [], .free (fun _ => .ret) fun _ _ => rfl⟩
  | nil =>
    refine ⟨0, [], fun _ _ => rfl, by simp, rfl, fun budget' left _ _ => .nil⟩
  | returned _ flow ih =>
    obtain ⟨own, counts, costs⟩ := ih
    refine ⟨0, counts, costs.tallies, costs.within, rfl, fun budget' left h _ => ?_⟩
    exact .returned (costs.affordable budget' left h (costs.allows ▸ Nat.zero_le _)) flow
  | next _ flow _ ih ihgoes =>
    obtain ⟨own, counts, costs⟩ := ih
    obtain ⟨own', counts', goes⟩ := ihgoes
    exact ⟨0, counts ++ counts', costs.next flow goes⟩
  | stop checks =>
    exact ⟨0, [], fun _ _ _ => rfl, by simp, Nat.zero_le _, fun budget' left _ _ => .stop checks⟩
  | cut checks _ flow ih =>
    obtain ⟨own, counts, costs⟩ := ih
    exact ⟨1, counts, .cut checks flow costs⟩
  | again checks _ flow advances _ ih ihgoes =>
    obtain ⟨own, counts, costs⟩ := ih
    obtain ⟨own', counts', goes⟩ := ihgoes
    exact ⟨own' + 1, counts ++ counts', .again checks flow advances costs goes⟩

end Playback
