import Playback.Proofs.Grammar
import Playback.Proofs.Iterations
import Playback.Proofs.Limits
import Playback.Proofs.Misplaced
import Playback.Proofs.WholeNumbers

/-!
# Counting

A loop that counts from one whole number to another runs its body once for each number between them,
both included, as long as the body leaves the counter alone and ends well. The numbers are exact: a whole
number of a magnitude of at most `2 ^ 53` is not rounded when one is added.

Main statement: what such a loop does, under a limit that allows its rounds or under none
(`Node.run_counting`).
-/

namespace Playback

/-! ## Variables that are left alone -/

/-- The node sets the variable: it declares it, or counts with it. -/
def Node.sets (name : String) : Node → Bool
  | declaration _ other _ => other == name
  | loopFromTo _ counter _ _ _ => counter == name
  | _ => false

/-- The counter of a code that is the rest of a loop. -/
def Code.counter? : Code → Option String
  | rounds guard _ _ => guard.counter?
  | _ => none

/-- A run keeps a variable that no node of the code sets. -/
lemma Runs.get?_eq {budget : Budget} {code : Code} {s : State} {r : Run} {p : Program} {name : String}
    (runs : Runs budget code s r) (within : code.Within p)
    (unset : ∀ role n, p.Holds role n → n.sets name = false) (other : code.counter? ≠ some name) :
    r.state.store.get? name = s.store.get? name := by
  induction runs with
  | declaration evaluates =>
    have differs := unset _ _ within
    exact (Store.get?_set ..).trans (if_neg (by simpa [Node.sets] using differs))
  | print => rfl
  | branch checks _ ih => exact ih (fun n mem => Node.holds_of_mem_chosen within mem) nofun
  | loopUntil _ ih =>
    have holds : p.Holds .statement _ := within
    exact ih ⟨holds.part .goal, fun n mem => holds.part (.repeated mem)⟩ nofun
  | @loopFromTo line counter first last body s x start inner starts sets _ ih =>
    have holds : p.Holds .statement _ := within
    have differs : counter ≠ name := by simpa [Node.sets] using unset _ _ holds
    have kept := ih ⟨holds.part .stop, fun n mem => holds.part (.counted mem)⟩
      fun same => differs (Option.some.inj same)
    subst sets
    exact kept.trans ((Store.get?_set ..).trans (if_neg differs))
  | function _ ih =>
    have holds : p.Holds .statement _ := within
    exact ih (fun n mem => holds.part (.body mem)) nofun
  | ret => rfl
  | nil => rfl
  | returned _ _ ih => exact ih (within _ List.mem_cons_self) nofun
  | next _ _ _ ih ihgoes =>
    exact (ihgoes (fun n mem => within n (List.mem_cons_of_mem _ mem)) nofun).trans
      (ih (within _ List.mem_cons_self) nofun)
  | stop => rfl
  | cut _ _ _ ih => exact ih within.2 nofun
  | @again guard body left s round step rest _ _ _ advances _ ih ihgoes =>
    have round := ih within.2 nofun
    have behind := ihgoes within other
    cases guard with
    | conditional line condition =>
      rw [Guard.advance_conditional advances] at behind
      exact behind.trans round
    | counting line counter last =>
      obtain ⟨x, -, rfl⟩ := Guard.advance_counting advances
      have differs : counter ≠ name := fun same => other (congrArg some same)
      exact behind.trans (((Store.get?_set ..).trans (if_neg differs)).trans round)

/-! ## Budgets -/

namespace Budget

/-- The budget is one for the limit on the rounds of each loop. Without a limit, there are rounds
enough, but finitely many. -/
def Serves (limit : Option Nat) (budget : Budget) : Prop :=
  match limit with
  | some n => budget = .limit n
  | none => ∃ n, budget = .fuel n

variable {limit : Option Nat} {budget budget' : Budget}

lemma exists_serves {n : Nat} (enough : ∀ m ∈ limit, n ≤ m) :
    ∃ budget, Serves limit budget ∧ n ≤ budget.rounds := by
  cases limit with
  | some m => exact ⟨.limit m, rfl, enough m rfl⟩
  | none => exact ⟨.fuel n, ⟨n, rfl⟩, Nat.le_refl n⟩

lemma Serves.exists_above (serves : Serves limit budget) (serves' : Serves limit budget') :
    ∃ above, Serves limit above ∧ budget.rounds ≤ above.rounds ∧ budget'.rounds ≤ above.rounds := by
  cases limit with
  | some m => exact ⟨budget, serves, Nat.le_refl _, by rw [serves, serves']⟩
  | none =>
    obtain ⟨n, rfl⟩ := serves
    obtain ⟨n', rfl⟩ := serves'
    exact ⟨.fuel (max n n'), ⟨_, rfl⟩, Nat.le_max_left .., Nat.le_max_right ..⟩

end Budget

section

variable {budget budget' : Budget} {guard : Guard} {body : List Node} {left left' : Nat} {s t : State}

lemma Runs.more_block {ns : List Node} {r : Run} (runs : Runs budget (.block ns) s r)
    (le : budget.rounds ≤ budget'.rounds) : Runs budget' (.block ns) s r := by
  obtain ⟨extra, heq⟩ := Nat.exists_eq_add_of_le le
  exact runs.more heq

/-- Where a loop runs its body, it does so as well when more rounds are allowed. -/
lemma Guard.mem_starts_of_le (mem : t ∈ guard.starts budget body left s)
    (le : budget.rounds ≤ budget'.rounds) (le' : left ≤ left') :
    t ∈ guard.starts budget' body left' s := by
  induction left generalizing s left' with
  | zero => cases mem
  | succ left ih =>
    obtain ⟨left', rfl⟩ := Nat.exists_eq_add_of_le' (Nat.le_trans (Nat.le_add_left 1 left) le')
    obtain ⟨checks, here | ⟨round, step, runs, flow, advances, behind⟩⟩ := mem_starts_iff.1 mem
    · exact mem_starts_iff.2 ⟨checks, .inl here⟩
    · exact mem_starts_iff.2 ⟨checks, .inr ⟨round, step, runs.more_block le, flow, advances,
        ih behind (Nat.le_of_succ_le_succ le')⟩⟩

end

/-! ## Loops over whole numbers -/

/-- A whole number as it is written. -/
def Node.wholeNumber (line : Option UInt32) (i : Int) : Node :=
  .number line (Float.ofInt i)

/-- The body ends well from the state, under a budget for the limit. -/
def Finishes (limit : Option Nat) (body : List Node) (t : State) : Prop :=
  ∃ budget, Budget.Serves limit budget ∧ ∃ round, Node.runAll budget body t = .ok round ∧
    round.flow = .next

section

variable {limit : Option Nat} {line line' : Option UInt32} {counter : String} {last i : Int}
  {body : List Node} {s : State}

/-- A loop over whole numbers goes on as long as its counter is at most the last one. -/
lemma Guard.test_counting_wholeNumber (hi : i.natAbs ≤ twoTo 53) (hlast : last.natAbs ≤ twoTo 53)
    (counts : s.store.get? counter = some (.number (Float.ofInt i))) :
    (counting line counter (.wholeNumber line' last)).loop.test s.store = .ok (decide (i ≤ last)) := by
  refine test_counting_eq_ok_iff.2 ⟨_, _, counts, rfl, ?_⟩
  exact decide_eq_decide.2 (Binary.ofInt_le_ofInt_iff hi hlast)

/-- Behind a round that has kept the counter, it is set to the next number. -/
lemma Guard.advance_wholeNumber (line : Option UInt32) (bound : Node) (hi : i.natAbs ≤ twoTo 53)
    (hnext : (i + 1).natAbs ≤ twoTo 53)
    (counts : s.store.get? counter = some (.number (Float.ofInt i))) :
    (counting line counter bound).loop.advance s =
      .ok (s.assign line counter (.number (Float.ofInt (i + 1)))) := by
  rw [← Binary.ofInt_add_one hi hnext]
  exact bind_eq_ok_iff.2 ⟨_, Store.counter_eq_ok_iff.2 counts, rfl⟩

/-- From the state on, the rounds of a loop count `n` numbers from `i` on and end with the run, under every
budget that allows at least the rounds of `least`, and with `n` rounds to go or more. -/
structure Guard.Counts (guard : Guard) (counter : String) (body : List Node) (n : Nat) (i : Int)
    (s : State) (least : Budget) (r : Run) : Prop where
  flow : r.flow = .next
  final : r.state.store.get? counter = some (.number (Float.ofInt (i + n)))
  runs : ∀ {budget left}, least.rounds ≤ budget.rounds → n ≤ left →
    Runs budget (.rounds guard body left) s r
  starts : ∀ {budget left}, least.rounds ≤ budget.rounds → n ≤ left →
    (guard.starts budget body left s).map (fun t => t.store.get? counter) =
      (List.range n).map fun k => some (.number (Float.ofInt (i + k)))

lemma Guard.Counts.stop {guard : Guard} (checks : guard.loop.test s.store = .ok false)
    (counts : s.store.get? counter = some (.number (Float.ofInt i))) (least : Budget) :
    guard.Counts counter body 0 i s least
      ⟨[guard.check s false], .next, s.passed guard.loop.line⟩ where
  flow := rfl
  final := counts.trans (by rw [Int.natCast_zero, Int.add_zero])
  runs _ _ := .stop checks
  starts _ _ := by rw [starts_of_stop checks]; rfl

/-- A round that counts `i`, and those that count what is behind it. -/
lemma Guard.Counts.again {guard : Guard} {own least above : Budget} {n : Nat} {round step rest : Run}
    (checks : guard.loop.test s.store = .ok true)
    (counts : s.store.get? counter = some (.number (Float.ofInt i)))
    (runs : Runs own (.block body) (s.passed guard.loop.line) round) (flow : round.flow = .next)
    (advances : guard.loop.advance round.state = .ok step)
    (behind : guard.Counts counter body n (i + 1) step.state least rest)
    (leOwn : own.rounds ≤ above.rounds) (leLeast : least.rounds ≤ above.rounds) :
    guard.Counts counter body (n + 1) i s above
      (rest.after (guard.check s true :: round.frames ++ step.frames)) where
  flow := behind.flow
  final := behind.final.trans (by rw [Int.add_assoc, Int.add_comm 1, ← Int.natCast_succ])
  runs {budget left} le le' := by
    obtain ⟨left, rfl⟩ := Nat.exists_eq_add_of_le' (Nat.le_trans (Nat.le_add_left 1 n) le')
    exact .again checks (runs.more_block (leOwn.trans le)) flow advances
      (behind.runs (leLeast.trans le) (Nat.le_of_succ_le_succ le'))
  starts {budget left} le le' := by
    obtain ⟨left, rfl⟩ := Nat.exists_eq_add_of_le' (Nat.le_trans (Nat.le_add_left 1 n) le')
    rw [starts_of_again checks (runs.more_block (leOwn.trans le)) flow advances, List.map_cons,
      behind.starts (leLeast.trans le) (Nat.le_of_succ_le_succ le'), List.range_succ_eq_map,
      List.map_cons, List.map_map]
    refine congrArg₂ List.cons ?_ (List.map_congr_left fun k _ => ?_)
    · rw [show i + (0 : Nat) = i from Int.add_zero i]
      exact counts
    · rw [Function.comp_apply, show i + 1 + (k : Int) = i + (k + 1 : Nat) by omega]

/-- From `i` on there are as many rounds as numbers up to the last one. -/
lemma Guard.exists_counts (limit : Option Nat) (line line' : Option UInt32) (hlast : last.natAbs < twoTo 53)
    (unset : ∀ role n, (Program.mk body).Holds role n → n.sets counter = false) {n : Nat}
    (hn : (last + 1 - i).toNat = n) (hi : i.natAbs ≤ twoTo 53)
    (counts : s.store.get? counter = some (.number (Float.ofInt i)))
    (finishes : ∀ budget, Budget.Serves limit budget →
      ∀ t ∈ (counting line counter (.wholeNumber line' last)).starts budget body n s,
        Finishes limit body t) :
    ∃ least, Budget.Serves limit least ∧
      ∃ r, (counting line counter (.wholeNumber line' last)).Counts counter body n i s least r := by
  induction n generalizing i s with
  | zero =>
    have checks : (counting line counter (.wholeNumber line' last)).loop.test s.store = .ok false :=
      (test_counting_wholeNumber hi hlast.le counts).trans
        (congrArg _ (decide_eq_false (show ¬ i ≤ last by omega)))
    obtain ⟨least, serves, -⟩ := Budget.exists_serves fun m (_ : m ∈ limit) => Nat.zero_le m
    exact ⟨least, serves, _, .stop checks counts least⟩
  | succ n ih =>
    have checks : (counting line counter (.wholeNumber line' last)).loop.test s.store = .ok true :=
      (test_counting_wholeNumber hi hlast.le counts).trans
        (congrArg _ (decide_eq_true (show i ≤ last by omega)))
    obtain ⟨any, servesAny, -⟩ := Budget.exists_serves fun m (_ : m ∈ limit) => Nat.zero_le m
    obtain ⟨own, servesOwn, round, ends, flow⟩ :=
      finishes any servesAny _ (mem_starts_iff.2 ⟨checks, .inl rfl⟩)
    have runs : Runs own (.block body) (s.passed line) round := Code.ends_iff.1 ends
    have kept : round.state.store.get? counter = some (.number (Float.ofInt i)) :=
      (runs.get?_eq (fun _ mem => .statement mem) unset nofun).trans counts
    have hnext : (i + 1).natAbs ≤ twoTo 53 := by omega
    have advances := advance_wholeNumber line (.wholeNumber line' last) hi hnext kept
    obtain ⟨least, servesLeast, rest, behind⟩ := ih (by omega) hnext
      ((Store.get?_set ..).trans (if_pos rfl)) fun budget serves t mem => by
        -- what the rest of the loop runs, the whole loop runs under a budget for both
        obtain ⟨above, servesAbove, le, leOwn⟩ := serves.exists_above servesOwn
        exact finishes above servesAbove t (mem_starts_iff.2 ⟨checks, .inr ⟨round, _,
          runs.more_block leOwn, flow, advances, mem_starts_of_le mem le (Nat.le_refl n)⟩⟩)
    obtain ⟨above, servesAbove, leOwn, leLeast⟩ := servesOwn.exists_above servesLeast
    exact ⟨above, servesAbove, _, .again checks counts runs flow advances behind leOwn leLeast⟩

end

/-- A loop from `first` to `last`, whose body leaves the counter alone and ends well each time, ends well
itself, under a limit that allows its rounds and under none. It runs its body for the numbers from
`first` to `last`, one after another, checks once before each round and once more, and its counter is
then the number behind `last`, or `first` if there was no round. Every machine in the same state executes
it so. -/
theorem Node.run_counting {limit : Option Nat} {line line' line'' : Option UInt32} {counter : String}
    {first last : Int} {body : List Node} {s : State} (hfirst : first.natAbs < twoTo 53)
    (hlast : last.natAbs < twoTo 53)
    (unset : ∀ role n, (Program.mk body).Holds role n → n.sets counter = false)
    (enough : ∀ m ∈ limit, (last + 1 - first).toNat ≤ m)
    (finishes : ∀ budget, Budget.Serves limit budget →
      ∀ t ∈ (loopFromTo line counter (wholeNumber line' first) (wholeNumber line'' last) body).starts
        budget s, Finishes limit body t) :
    let loop := loopFromTo line counter (wholeNumber line' first) (wholeNumber line'' last) body
    let guard := Guard.counting line counter (wholeNumber line'' last)
    let set := s.assign line counter (.number (Float.ofInt first))
    ∃ budget, Budget.Serves limit budget ∧ ∃ r, loop.run budget s = .ok r ∧ r.flow = .next ∧
      (∀ m : Machine, m.state = s → loop.exec budget m = .ok (.next, m.behind r)) ∧
      (loop.starts budget s).map (fun t => t.store.get? counter) =
        ((List.range (last + 1 - first).toNat).map fun k =>
          some (.number (Float.ofInt (first + k)))) ∧
      r.frames = Frame.closed (set.frames ++ [set.state.frame line (.loopFromTo guard.loop.condition)] ++
        ((loop.starts budget s).flatMap (guard.round budget body) ++
          [.plain r.state.lastLine () (.check guard.loop.condition false)])) (.endLoop .counting) ∧
      r.state.store.get? counter = some (.number (Float.ofInt (max first (last + 1)))) := by
  intro loop guard set
  have starts_eq (budget : Budget) :
      loop.starts budget s = guard.starts budget body budget.rounds (set.state.passed line) := rfl
  obtain ⟨more, servesMore, rounds⟩ := Budget.exists_serves enough
  obtain ⟨least, servesLeast, r, counted⟩ :=
    Guard.exists_counts (s := set.state.passed line) limit line line'' hlast unset rfl hfirst.le
      ((Store.get?_set ..).trans (if_pos rfl)) fun budget serves t mem => by
        obtain ⟨above, servesAbove, le, leMore⟩ := serves.exists_above servesMore
        exact finishes above servesAbove t (Guard.mem_starts_of_le mem le (rounds.trans leMore))
  obtain ⟨budget, serves, leLeast, leMore⟩ := servesLeast.exists_above servesMore
  have runs := counted.runs leLeast (rounds.trans leMore)
  have whole : Runs budget (.statement loop) s _ := .loopFromTo rfl rfl runs
  refine ⟨budget, serves, _, whole.run_eq, counted.flow, fun m here => ?_,
    counted.starts leLeast (rounds.trans leMore), ?_, ?_⟩
  · have executes := Code.exec_of_run whole.run_eq here
    rwa [Run.closed_flow, Run.after_flow, counted.flow] at executes
  · rw [starts_eq, Run.closed_frames, Run.after_frames, runs.rounds_frames counted.flow]
    rfl
  · rw [show max first (last + 1) = first + ((last + 1 - first).toNat : Nat) by omega]
    exact counted.final

/-- Prints the counter, and counts up to it with another variable. -/
def countsUp : List Node :=
  [.print none (.identifier none "i"),
    .loopFromTo (some 2) "j" (.wholeNumber none 1) (.identifier none "i")
      [.print none (.identifier none "j")]]

/-- From -1 to 2 there are four rounds, which a limit of four allows. -/
theorem Node.run_counting_countsUp :
    let loop := loopFromTo (some 1) "i" (wholeNumber none (-1)) (wholeNumber none 2) countsUp
    ∃ r, loop.run (.limit 4) .initial = .ok r ∧ r.flow = .next ∧
      (loop.starts (.limit 4) .initial).map (fun t => t.store.get? "i") =
        ([-1, 0, 1, 2] : List Int).map (fun i => some (.number (Float.ofInt i))) ∧
      r.state.store.get? "i" = some (.number (Float.ofInt 3)) := by
  intro loop
  have unset : ∀ n ∈ (Program.mk countsUp).nodes, n.sets "i" = false := by decide +kernel
  have ends : (loop.starts (.limit 4) .initial).all (fun t =>
      (Node.runAll (.limit 4) countsUp t).toOption.any (·.flow == .next)) = true := by decide +kernel
  have finishes : ∀ t ∈ loop.starts (.limit 4) .initial, Finishes (some 4) countsUp t := by
    intro t mem
    have here := List.all_eq_true.1 ends t mem
    cases h : Node.runAll (.limit 4) countsUp t with
    | error halt =>
      rw [h] at here
      cases here
    | ok r =>
      rw [h] at here
      exact ⟨_, rfl, r, h, of_decide_eq_true here⟩
  obtain ⟨budget, rfl, r, ends, flow, -, starts, -, final⟩ :=
    @Node.run_counting (some 4) (some 1) none none "i" (-1) 2 countsUp .initial (by decide) (by decide)
      (fun _ n holds => unset n holds.mem_nodes) (fun m mem => by cases mem; decide)
      fun _ serves => serves ▸ finishes
  exact ⟨r, ends, flow, starts, final⟩

end Playback
