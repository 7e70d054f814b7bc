import Playback.Proofs.Stages

/-!
# Reading variables

`Node.Reads store name n` says that the evaluation of `n` comes to a read of the variable: everything
that is evaluated before it has a value. `Stage.Reads` says the same of what a run is about to do.

Main statement: the step of a stage fails for an undeclared variable exactly when it comes to a read of
that variable, and the variable is not set (`Stage.halts_undeclared_iff`).
-/

namespace Playback

/-- The evaluation of an expression comes to a read of the variable. -/
inductive Node.Reads (store : Store) (name : String) : Node → Prop where
  | identifier {line} : Reads store name (.identifier line name)
  | length {line} : Reads store name (.length line name)
  | source {line first last} : Reads store name (.substring line name first last)
  | first {line source first last v} (hsource : store.read source = .ok v)
      (reads : Reads store name first) : Reads store name (.substring line source first last)
  | last {line source first last v a i} (hsource : store.read source = .ok v)
      (hfirst : first.evaluate store = .ok a) (hindex : a.requireIndex = .ok i)
      (reads : Reads store name last) : Reads store name (.substring line source first last)
  | notRight {line left operand} (reads : Reads store name operand) :
      Reads store name (.expression line left .not (some operand))
  | notLeft {line operand} (reads : Reads store name operand) :
      Reads store name (.expression line (some operand) .not none)
  | left {line left op right} (binary : op.isUnary = false) (reads : Reads store name left) :
      Reads store name (.expression line (some left) op (some right))
  | right {line left op right a} (binary : op.isUnary = false) (hleft : left.evaluate store = .ok a)
      (reads : Reads store name right) :
      Reads store name (.expression line (some left) op (some right))

/-- What a run is about to do comes to a read of the variable. -/
inductive Stage.Reads (store : Store) (name : String) : Stage → Prop where
  | declaration {line target value} (reads : value.Reads store name) :
      Reads store name (.statement (.declaration line target value))
  /-- A name that is printed may be that of no variable. -/
  | print {line value} (reads : value.Reads store name) (h : ∀ l, value ≠ .identifier l name) :
      Reads store name (.statement (.print line value))
  | branch {line condition consequent alternate} (reads : condition.Reads store name) :
      Reads store name (.statement (.branch line condition consequent alternate))
  | loopFromTo {line counter first last body} (reads : first.Reads store name) :
      Reads store name (.statement (.loopFromTo line counter first last body))
  | condition {line condition left} (reads : condition.negated.Reads store name) :
      Reads store name (.check (.conditional line condition) left)
  | counter {line last left} : Reads store name (.check (.counting line name last) left)
  | last {line counter last left x} (hcounter : store.counter counter = .ok x)
      (reads : last.Reads store name) : Reads store name (.check (.counting line counter last) left)
  | advance {line last} : Reads store name (.advance (.counting line name last))

/-! ## Faults of operations -/

/-- An operation on values may fail for this cause. -/
def Fault.isOfValues : Fault → Bool
  | badRange .. | badOperand .. | divisionByZero => true
  | _ => false

/-- If the computation fails, the values it has are to blame, and neither a variable nor a node is. -/
structure FailsByValues {α : Type} (x : Except Fault α) : Prop where
  ofValues : ∀ cause, x = .error cause → cause.isOfValues = true

namespace FailsByValues

variable {α β : Type} {x : Except Fault α}

lemma ok {a : α} : FailsByValues (.ok a) :=
  ⟨nofun⟩

lemma fail {cause : Fault} (h : cause.isOfValues = true) :
    FailsByValues (.error cause : Except Fault α) :=
  ⟨fun _ heq => Except.error.inj heq ▸ h⟩

lemma bind {f : α → Except Fault β} (h : FailsByValues x) (hf : ∀ a, FailsByValues (f a)) :
    FailsByValues (x >>= f) := by
  refine ⟨fun cause fails => ?_⟩
  rcases bind_eq_error_iff.1 fails with fails | ⟨a, -, fails⟩
  · exact h.ofValues cause fails
  · exact (hf a).ofValues cause fails

lemma map {f : α → β} (h : FailsByValues x) : FailsByValues (x.map f) :=
  ⟨fun cause fails => h.ofValues cause (map_eq_error_iff.1 fails)⟩

lemma ne_undeclared (h : FailsByValues x) (name : String) : x ≠ .error (.undeclared name) :=
  fun fails => nomatch h.ofValues _ fails

lemma ne_unsupported (h : FailsByValues x) (kind : String) : x ≠ .error (.unsupported kind) :=
  fun fails => nomatch h.ofValues _ fails

end FailsByValues

namespace Value

variable (op : Operator) (a b : Value)

lemma requireNumber_failsByValues (context : String) : FailsByValues (a.requireNumber context) := by
  unfold requireNumber
  cases a.toNumber? with
  | none => exact .fail rfl
  | some x => exact .ok

lemma requireIndex_failsByValues : FailsByValues a.requireIndex :=
  (a.requireNumber_failsByValues _).map

lemma cut_failsByValues (source : String) (first last : Int) :
    FailsByValues (a.cut source first last) := by
  unfold cut
  split
  · exact .fail rfl
  · exact .ok

lemma numbers_failsByValues : FailsByValues (numbers op a b) := by
  unfold numbers
  cases a.toNumber? with
  | none => exact .fail rfl
  | some x =>
    cases b.toNumber? with
    | none => exact .fail rfl
    | some y => exact .ok

lemma order_failsByValues : FailsByValues (order op a b) := by
  unfold order
  split
  · exact .ok
  · refine (numbers_failsByValues op a b).bind fun (x, y) => ?_
    dsimp only
    cases orderNumbers? x y with
    | none => exact .fail rfl
    | some o => exact .ok

lemma divide_failsByValues : FailsByValues (divide a b) := by
  refine (numbers_failsByValues .div a b).bind fun (x, y) => ?_
  dsimp only
  split
  · exact .fail rfl
  · exact .ok

lemma add_failsByValues : FailsByValues (add a b) := by
  unfold add
  split
  · exact .ok
  · exact (numbers_failsByValues .add a b).map

/-- An operator fails only for its operands, which are values. -/
lemma binary_failsByValues : FailsByValues (binary op a b) := by
  cases op with
  | add => exact add_failsByValues a b
  | sub => exact (numbers_failsByValues .sub a b).map
  | mul => exact (numbers_failsByValues .mul a b).map
  | div => exact divide_failsByValues a b
  | equal | notEqual | and | or => exact .ok
  | not => exact .fail rfl
  | less => exact (order_failsByValues .less a b).map
  | lessEq => exact (order_failsByValues .lessEq a b).map
  | greater => exact (order_failsByValues .greater a b).map
  | greaterEq => exact (order_failsByValues .greaterEq a b).map

end Value

/-! ## Expressions -/

/-- Reading a variable fails exactly when it is not set. -/
lemma Store.read_eq_error_iff {store : Store} {name : String} {cause : Fault} :
    store.read name = .error cause ↔ store.get? name = none ∧ cause = .undeclared name := by
  unfold read
  cases store.get? name with
  | none => simp [eq_comm]
  | some v => simp

lemma Store.get?_of_read {store : Store} {name : String} {v : Value} (h : store.read name = .ok v) :
    store.get? name = some v := by
  unfold read at h
  cases found : store.get? name with
  | none =>
    rw [found] at h
    cases h
  | some w =>
    rw [found] at h
    cases h
    rfl

namespace Node

variable {store : Store} {name : String}

/-- A substring is cut out of the value of its variable. -/
lemma cut_of_evaluate {line : Option UInt32} {source : String} {first last : Node} {v : Value}
    (h : (substring line source first last).evaluate store = .ok v) :
    ∃ w i j, store.read source = .ok w ∧ w.cut source i j = .ok v := by
  obtain ⟨w, reads, h⟩ := bind_eq_ok_iff.1 h
  obtain ⟨a, -, h⟩ := bind_eq_ok_iff.1 h
  obtain ⟨i, -, h⟩ := bind_eq_ok_iff.1 h
  obtain ⟨b, -, h⟩ := bind_eq_ok_iff.1 h
  obtain ⟨j, -, h⟩ := bind_eq_ok_iff.1 h
  exact ⟨w, i, j, reads, h⟩

/-- A read of a variable that is not set fails, and so does the expression around it. -/
lemma Reads.evaluate_eq {n : Node} (reads : n.Reads store name) (unset : store.get? name = none) :
    n.evaluate store = .error (.undeclared name) := by
  have hread : store.read name = .error (.undeclared name) :=
    Store.read_eq_error_iff.2 ⟨unset, rfl⟩
  induction reads with
  | identifier => exact map_eq_error_iff.2 hread
  | length => exact map_eq_error_iff.2 hread
  | source => rw [evaluate, hread]; rfl
  | first hsource _ ih => rw [evaluate, hsource, ih]; rfl
  | last hsource hfirst hindex _ ih =>
    rw [evaluate, hsource, hfirst]
    simp only [bind, Except.bind]
    rw [hindex, ih]
  | notRight _ ih => rw [evaluate_not_right, ih]; rfl
  | notLeft _ ih => rw [evaluate_not_left, ih]; rfl
  | left binary _ ih => rw [evaluate_binary store _ binary, ih]; rfl
  | right binary hleft _ ih => rw [evaluate_binary store _ binary, hleft, ih]; rfl

/-- A variable that is to blame was read, and is not set. -/
lemma reads_of_evaluate : ∀ {n : Node}, n.evaluate store = .error (.undeclared name) →
    n.Reads store name ∧ store.get? name = none
  | identifier _ source, h => by
    obtain ⟨unset, heq⟩ := Store.read_eq_error_iff.1 (map_eq_error_iff.1 h)
    cases heq
    exact ⟨.identifier, unset⟩
  | length _ source, h => by
    obtain ⟨unset, heq⟩ := Store.read_eq_error_iff.1 (map_eq_error_iff.1 h)
    cases heq
    exact ⟨.length, unset⟩
  | substring _ source first last, h => by
    -- the source is read first, and then the bounds are evaluated from left to right
    rw [evaluate] at h
    rcases bind_eq_error_iff.1 h with fails | ⟨v, hsource, h⟩
    · obtain ⟨unset, heq⟩ := Store.read_eq_error_iff.1 fails
      cases heq
      exact ⟨.source, unset⟩
    rcases bind_eq_error_iff.1 h with fails | ⟨a, hfirst, h⟩
    · obtain ⟨reads, unset⟩ := reads_of_evaluate fails
      exact ⟨.first hsource reads, unset⟩
    rcases bind_eq_error_iff.1 h with fails | ⟨i, hindex, h⟩
    · exact absurd fails (a.requireIndex_failsByValues.ne_undeclared name)
    rcases bind_eq_error_iff.1 h with fails | ⟨b, hlast, h⟩
    · obtain ⟨reads, unset⟩ := reads_of_evaluate fails
      exact ⟨.last hsource hfirst hindex reads, unset⟩
    rcases bind_eq_error_iff.1 h with fails | ⟨j, hindex', h⟩
    · exact absurd fails (b.requireIndex_failsByValues.ne_undeclared name)
    · exact absurd h ((v.cut_failsByValues source i j).ne_undeclared name)
  | expression line (some left) op (some right), h => by
    cases unary : op.isUnary with
    | true =>
      cases op with
      | not =>
        obtain ⟨reads, unset⟩ := reads_of_evaluate (map_eq_error_iff.1 h)
        exact ⟨.notRight reads, unset⟩
      | _ => cases unary
    | false =>
      rw [evaluate_binary store line unary] at h
      rcases bind_eq_error_iff.1 h with fails | ⟨a, hleft, h⟩
      · obtain ⟨reads, unset⟩ := reads_of_evaluate fails
        exact ⟨.left unary reads, unset⟩
      rcases bind_eq_error_iff.1 h with fails | ⟨b, hright, h⟩
      · obtain ⟨reads, unset⟩ := reads_of_evaluate fails
        exact ⟨.right unary hleft reads, unset⟩
      · exact absurd h ((Value.binary_failsByValues op _ _).ne_undeclared name)
  | expression line none op (some right), h => by
    cases op with
    | not =>
      obtain ⟨reads, unset⟩ := reads_of_evaluate (map_eq_error_iff.1 h)
      exact ⟨.notRight reads, unset⟩
    | _ => cases h
  | expression line (some left) op none, h => by
    cases op with
    | not =>
      obtain ⟨reads, unset⟩ := reads_of_evaluate (map_eq_error_iff.1 h)
      exact ⟨.notLeft reads, unset⟩
    | _ => cases h
  | expression line none op none, h => by cases op <;> cases h
  | number .., h | string .., h | boolean .., h => by cases h
  | declaration .., h | print .., h | branch .., h | loopUntil .., h | loopFromTo .., h
  | function .., h | ret .., h | unsupported .., h => by cases h

/-- An expression fails for an undeclared variable exactly when it comes to read one. -/
lemma evaluate_undeclared_iff {n : Node} : n.evaluate store = .error (.undeclared name) ↔
    n.Reads store name ∧ store.get? name = none :=
  ⟨reads_of_evaluate, fun ⟨reads, unset⟩ => reads.evaluate_eq unset⟩

lemma holds_undeclared_iff {n : Node} : n.holds store = .error (.undeclared name) ↔
    n.Reads store name ∧ store.get? name = none :=
  map_eq_error_iff.trans evaluate_undeclared_iff

lemma evaluateNumber_undeclared_iff {n : Node} {context : String} :
    n.evaluateNumber store context = .error (.undeclared name) ↔
      n.Reads store name ∧ store.get? name = none := by
  refine Iff.trans ⟨fun h => ?_, fun h => ?_⟩ evaluate_undeclared_iff
  · rcases bind_eq_error_iff.1 h with fails | ⟨v, -, fails⟩
    · exact fails
    · exact absurd fails ((v.requireNumber_failsByValues context).ne_undeclared name)
  · exact bind_eq_error_iff.2 (.inl h)

lemma printed_of_ne {n : Node} (h : ∀ line name, n ≠ .identifier line name) :
    n.printed store = (n.evaluate store).map fun v => .print true none v.primitive := by
  cases n with
  | identifier line name => exact absurd rfl (h line name)
  | _ => rfl

/-- Printing reads a variable, except that a name that is not set is printed itself. -/
lemma printed_undeclared_iff {n : Node} : n.printed store = .error (.undeclared name) ↔
    (n.Reads store name ∧ ∀ l, n ≠ .identifier l name) ∧ store.get? name = none := by
  cases n with
  | identifier line source =>
    constructor
    · intro h
      rw [printed] at h
      cases hsource : store.get? source with
      | none => rw [hsource] at h; cases h
      | some v => rw [hsource] at h; cases h
    · rintro ⟨⟨reads, h⟩, -⟩
      cases reads
      exact absurd rfl (h line)
  | _ =>
    rw [printed_of_ne, map_eq_error_iff, evaluate_undeclared_iff]
    · simp
    · exact fun _ _ => nofun

end Node

lemma Store.counter_undeclared_iff {store : Store} {source name : String} :
    store.counter source = .error (.undeclared name) ↔ source = name ∧ store.get? name = none := by
  rw [Store.counter]
  cases h : store.read source with
  | error cause =>
    obtain ⟨unset, rfl⟩ := Store.read_eq_error_iff.1 h
    constructor
    · intro fails
      cases fails
      exact ⟨rfl, unset⟩
    · rintro ⟨rfl, -⟩
      rfl
  | ok v =>
    constructor
    · intro fails
      cases v <;> cases fails
    · rintro ⟨rfl, unset⟩
      rw [Store.read, unset] at h
      cases h

/-! ## Stages -/

namespace Stage

variable {budget : Budget} {s : State} {name : String}

lemma Reads.halts {stage : Stage} (reads : stage.Reads s.store name)
    (unset : s.store.get? name = none) : stage.Halts budget s (.fault (.undeclared name)) := by
  cases reads with
  | declaration reads => exact .declaration (Node.evaluate_undeclared_iff.2 ⟨reads, unset⟩)
  | print reads h => exact .print (Node.printed_undeclared_iff.2 ⟨⟨reads, h⟩, unset⟩)
  | branch reads => exact .branch (Node.holds_undeclared_iff.2 ⟨reads, unset⟩)
  | loopFromTo reads => exact .loopFromTo (Node.evaluateNumber_undeclared_iff.2 ⟨reads, unset⟩)
  | condition reads => exact .check (Node.holds_undeclared_iff.2 ⟨reads, unset⟩)
  | counter =>
    have fails := Store.counter_undeclared_iff.2 ⟨rfl, unset⟩
    exact .check (bind_eq_error_iff.2 (.inl fails))
  | @last line counter last left x hcounter reads =>
    have fails : last.evaluateNumber s.store "from_to" = _ :=
      Node.evaluateNumber_undeclared_iff.2 ⟨reads, unset⟩
    exact .check (bind_eq_error_iff.2 (.inr ⟨x, hcounter, bind_eq_error_iff.2 (.inl fails)⟩))
  | advance =>
    have fails := Store.counter_undeclared_iff.2 ⟨rfl, unset⟩
    exact .advance (bind_eq_error_iff.2 (.inl fails))

lemma reads_of_check {guard : Guard} {left : Nat} {store : Store}
    (fails : guard.loop.test store = .error (.undeclared name)) :
    (check guard left).Reads store name ∧ store.get? name = none := by
  cases guard with
  | conditional line condition =>
    obtain ⟨reads, unset⟩ := Node.holds_undeclared_iff.1 fails
    exact ⟨.condition reads, unset⟩
  | counting line counter last =>
    rcases bind_eq_error_iff.1 fails with fails | ⟨x, hcounter, fails⟩
    · obtain ⟨rfl, unset⟩ := Store.counter_undeclared_iff.1 fails
      exact ⟨.counter, unset⟩
    · rcases bind_eq_error_iff.1 fails with fails | ⟨y, -, fails⟩
      · obtain ⟨reads, unset⟩ := Node.evaluateNumber_undeclared_iff.1 fails
        exact ⟨.last hcounter reads, unset⟩
      · cases fails

lemma reads_of_advance {guard : Guard}
    (fails : guard.loop.advance s = .error (.undeclared name)) :
    (advance guard).Reads s.store name ∧ s.store.get? name = none := by
  cases guard with
  | conditional line condition => cases fails
  | counting line counter last =>
    rcases bind_eq_error_iff.1 fails with fails | ⟨x, -, fails⟩
    · obtain ⟨rfl, unset⟩ := Store.counter_undeclared_iff.1 fails
      exact ⟨.advance, unset⟩
    · cases fails

/-- The step of a stage fails for an undeclared variable exactly when it comes to a read of it, and
the variable is not set. -/
theorem halts_undeclared_iff {stage : Stage} :
    stage.Halts budget s (.fault (.undeclared name)) ↔
      stage.Reads s.store name ∧ s.store.get? name = none := by
  refine ⟨fun halts => ?_, fun ⟨reads, unset⟩ => reads.halts unset⟩
  generalize fault : Halt.fault (.undeclared name) = halt at halts
  cases halts with
  | declaration fails =>
    cases fault
    obtain ⟨reads, unset⟩ := Node.evaluate_undeclared_iff.1 fails
    exact ⟨.declaration reads, unset⟩
  | print fails =>
    cases fault
    obtain ⟨⟨reads, h⟩, unset⟩ := Node.printed_undeclared_iff.1 fails
    exact ⟨.print reads h, unset⟩
  | branch fails =>
    cases fault
    obtain ⟨reads, unset⟩ := Node.holds_undeclared_iff.1 fails
    exact ⟨.branch reads, unset⟩
  | loopFromTo fails =>
    cases fault
    obtain ⟨reads, unset⟩ := Node.evaluateNumber_undeclared_iff.1 fails
    exact ⟨.loopFromTo reads, unset⟩
  | misplaced => cases fault
  | check fails =>
    cases fault
    exact reads_of_check fails
  | overrun => cases budget <;> cases fault
  | advance fails =>
    cases fault
    exact reads_of_advance fails

end Stage

end Playback
