import Playback.Proofs.Comparisons
import Playback.Proofs.Reads

/-!
# Faults of operands

Which operations fail, on which values, and for what cause. Joining and adding never fail, nor do
equality and the logical operators; the rest want numbers, and a comparison by order wants numbers that
have an order, unless it compares two texts.

Main statement: when each operator fails, and the operations that are named where a program fails for an
operand (`operand_faults`).
-/

namespace Playback

/-! ## Operators -/

namespace Value

variable {op : Operator} {a b : Value} {cause : Fault}

/-- The first operand that does not count as a number. -/
def unfit? (a b : Value) : Option Value :=
  [a, b].find? fun v => v.toNumber?.isNone

/-- The first operand that does not count as a number is to blame. -/
def BlamesUnfit (op : Operator) (a b : Value) (cause : Fault) : Prop :=
  ∃ v, unfit? a b = some v ∧ cause = .badOperand op.symbol v.inQuotes

lemma numbers_eq_ok_iff {x y : Float} :
    numbers op a b = .ok (x, y) ↔ a.toNumber? = some x ∧ b.toNumber? = some y := by
  unfold numbers
  cases a.toNumber? with
  | none => simp
  | some x' => cases b.toNumber? <;> simp

lemma numbers_eq_error_iff : numbers op a b = .error cause ↔ BlamesUnfit op a b cause := by
  unfold numbers BlamesUnfit unfit?
  cases ha : a.toNumber? with
  | none => simp [ha, eq_comm]
  | some x => cases hb : b.toNumber? <;> simp [ha, hb, eq_comm]

lemma arithmetic_eq_error_iff {f : Float → Float → Float} :
    arithmetic op f a b = .error cause ↔ BlamesUnfit op a b cause :=
  map_eq_error_iff.trans numbers_eq_error_iff

lemma divide_eq_error_iff : divide a b = .error cause ↔ BlamesUnfit .div a b cause ∨
    cause = .divisionByZero ∧ ∃ x y, a.toNumber? = some x ∧ b.toNumber? = some y ∧ (y == 0.0) = true := by
  rw [divide, bind_eq_error_iff, numbers_eq_error_iff]
  refine or_congr_right ⟨?_, ?_⟩
  · rintro ⟨⟨x, y⟩, h, fails⟩
    obtain ⟨hx, hy⟩ := numbers_eq_ok_iff.1 h
    dsimp only at fails
    split at fails
    · next zero => exact ⟨(Except.error.inj fails).symm, x, y, hx, hy, zero⟩
    · cases fails
  · rintro ⟨rfl, x, y, hx, hy, zero⟩
    exact ⟨(x, y), numbers_eq_ok_iff.2 ⟨hx, hy⟩, if_pos zero⟩

/-- What is no text counts as a number. -/
lemma isSome_toNumber? (h : a.text? = none) : a.toNumber?.isSome = true := by
  cases a with
  | number | truth => rfl
  | text | slice => cases h

lemma isSome_of_joins (h : joins a b = false) :
    a.toNumber?.isSome = true ∧ b.toNumber?.isSome = true := by
  unfold joins at h
  split at h
  · cases h
  · next hb => exact ⟨by simpa using h, isSome_toNumber? hb⟩
  · next ha _ => exact ⟨isSome_toNumber? ha, by simpa using h⟩
  · next ha hb => exact ⟨isSome_toNumber? ha, isSome_toNumber? hb⟩

/-- Values that are not joined are added. -/
lemma exists_add (a b : Value) : ∃ v, add a b = .ok v := by
  unfold add
  cases hjoins : joins a b with
  | true => exact ⟨_, rfl⟩
  | false =>
    obtain ⟨ha, hb⟩ := isSome_of_joins hjoins
    obtain ⟨x, hx⟩ := Option.isSome_iff_exists.1 ha
    obtain ⟨y, hy⟩ := Option.isSome_iff_exists.1 hb
    rw [if_neg Bool.false_ne_true, arithmetic, numbers_eq_ok_iff.2 ⟨hx, hy⟩]
    exact ⟨_, rfl⟩

/-- A comparison by order fails where one of the values is no text, and does not count as a number or
counts as what is no number. -/
lemma order_eq_error_iff : order op a b = .error cause ↔ (a.text? = none ∨ b.text? = none) ∧
    (BlamesUnfit op a b cause ∨ ∃ x y, a.toNumber? = some x ∧ b.toNumber? = some y ∧
      (x.isNaN = true ∨ y.isNaN = true) ∧
      cause = .badOperand op.symbol (plainText x ++ " and " ++ plainText y)) := by
  rcases texts_or_not a b with ⟨s, t, ha, hb⟩ | h
  · simp [order_texts ha hb, ha, hb]
  rw [order_numbers h, bind_eq_error_iff, numbers_eq_error_iff, and_iff_right h]
  refine or_congr_right ⟨?_, ?_⟩
  · rintro ⟨⟨x, y⟩, found, fails⟩
    obtain ⟨hx, hy⟩ := numbers_eq_ok_iff.1 found
    dsimp only at fails
    split at fails
    · cases fails
    · next none => exact ⟨x, y, hx, hy, orderNumbers?_eq_none_iff.1 none, (Except.error.inj fails).symm⟩
  · rintro ⟨x, y, hx, hy, nan, rfl⟩
    refine ⟨(x, y), numbers_eq_ok_iff.2 ⟨hx, hy⟩, ?_⟩
    dsimp only
    rw [orderNumbers?_eq_none_iff.2 nan]

lemma binary_eq_error_iff_of_ordering (ordering : op.isOrdering = true) :
    binary op a b = .error cause ↔ order op a b = .error cause := by
  rw [binary_ordering ordering]
  exact map_eq_error_iff

end Value

/-! ## Programs -/

/-- The operations that a fault about an operand may name. -/
def Fault.operations : List String :=
  ["-", "*", "/", "<", "<=", ">", ">=", "from_to", "substring"]

/-- The fault is about no operand, or names one of the operations. -/
def Fault.Named (cause : Fault) : Prop :=
  ∀ operation value, cause = .badOperand operation value → operation ∈ operations

/-- The fault of a step of a program, other than that no round of a loop is left. -/
structure Fault.OfStep (cause : Fault) : Prop where
  named : cause.Named
  spares : ∀ limit line, cause ≠ .tooManyRounds limit line

lemma Fault.OfStep.badOperand {operation : String} (mem : operation ∈ Fault.operations) (value : String) :
    OfStep (.badOperand operation value) where
  named := by
    rintro operation value ⟨⟩
    exact mem
  spares := nofun

/-- Where the computation fails, its cause has the property. -/
def FailsWith {α : Type} (P : Fault → Prop) (x : Except Fault α) : Prop :=
  ∀ cause, x = .error cause → P cause

namespace FailsWith

variable {α β : Type} {P : Fault → Prop} {x : Except Fault α}

lemma ok {a : α} : FailsWith P (.ok a) := nofun

lemma fail {cause : Fault} (h : P cause) : FailsWith P (.error cause : Except Fault α) :=
  fun _ heq => Except.error.inj heq ▸ h

lemma bind {f : α → Except Fault β} (h : FailsWith P x) (hf : ∀ a, FailsWith P (f a)) :
    FailsWith P (x >>= f) := by
  intro cause fails
  rcases bind_eq_error_iff.1 fails with fails | ⟨a, -, fails⟩
  · exact h cause fails
  · exact hf a cause fails

lemma map {f : α → β} (h : FailsWith P x) : FailsWith P (x.map f) :=
  fun cause fails => h cause (map_eq_error_iff.1 fails)

end FailsWith

namespace Value

lemma BlamesUnfit.ofStep {op : Operator} {a b : Value} {cause : Fault} (h : BlamesUnfit op a b cause)
    (mem : op.symbol ∈ Fault.operations) : cause.OfStep := by
  obtain ⟨v, -, rfl⟩ := h
  exact .badOperand mem _

lemma ofStep_order {op : Operator} (mem : op.symbol ∈ Fault.operations) (a b : Value) :
    FailsWith Fault.OfStep (order op a b) := by
  intro cause fails
  rcases (order_eq_error_iff.1 fails).2 with blames | ⟨x, y, -, -, -, rfl⟩
  · exact blames.ofStep mem
  · exact .badOperand mem _

lemma ofStep_binary {op : Operator} (binary : op.isUnary = false) (a b : Value) :
    FailsWith Fault.OfStep (Value.binary op a b) := by
  cases op with
  | add =>
    intro cause fails
    obtain ⟨v, hv⟩ := exists_add a b
    cases fails.symm.trans hv
  | sub | mul => exact fun cause fails => (arithmetic_eq_error_iff.1 fails).ofStep (by decide)
  | div =>
    intro cause fails
    rcases divide_eq_error_iff.1 fails with blames | ⟨rfl, -⟩
    · exact blames.ofStep (by decide)
    · exact ⟨nofun, nofun⟩
  | equal | notEqual | and | or => exact .ok
  | not => cases binary
  | less | lessEq | greater | greaterEq => exact (ofStep_order (by decide) a b).map

lemma ofStep_requireNumber {context : String} (mem : context ∈ Fault.operations) (v : Value) :
    FailsWith Fault.OfStep (v.requireNumber context) := by
  unfold requireNumber
  cases v.toNumber? with
  | some x => exact .ok
  | none => exact .fail (.badOperand mem _)

lemma ofStep_requireIndex (v : Value) : FailsWith Fault.OfStep v.requireIndex :=
  (ofStep_requireNumber (by decide) v).map

lemma ofStep_cut (v : Value) (source : String) (first last : Int) :
    FailsWith Fault.OfStep (v.cut source first last) := by
  unfold cut
  split
  · exact .fail ⟨nofun, nofun⟩
  · exact .ok

end Value

lemma Store.ofStep_read (store : Store) (name : String) : FailsWith Fault.OfStep (store.read name) := by
  intro cause fails
  obtain ⟨-, rfl⟩ := Store.read_eq_error_iff.1 fails
  exact ⟨nofun, nofun⟩

lemma Store.ofStep_counter (store : Store) (name : String) : FailsWith Fault.OfStep (store.counter name) := by
  unfold counter
  split
  · next cause h => exact .fail (store.ofStep_read name cause h)
  · exact .ok
  · exact .fail (.badOperand (by decide) _)

namespace Node

lemma ofStep_evaluate (store : Store) : ∀ n : Node, FailsWith Fault.OfStep (n.evaluate store)
  | identifier _ name | length _ name => (store.ofStep_read name).map
  | number .. | string .. | boolean .. => .ok
  | substring _ source first last =>
    (store.ofStep_read source).bind fun v => (first.ofStep_evaluate store).bind fun a =>
      a.ofStep_requireIndex.bind fun i => (last.ofStep_evaluate store).bind fun b =>
        b.ofStep_requireIndex.bind fun j => v.ofStep_cut source i j
  | expression _ (some left) op (some right) => by
    cases unary : op.isUnary with
    | true =>
      cases op <;> cases unary
      exact (right.ofStep_evaluate store).map
    | false =>
      rw [evaluate_binary store _ unary]
      exact (left.ofStep_evaluate store).bind fun a => (right.ofStep_evaluate store).bind fun b =>
        Value.ofStep_binary unary _ _
  | expression _ none op (some right) => by
    cases op with
    | not => exact (right.ofStep_evaluate store).map
    | _ => exact .fail ⟨nofun, nofun⟩
  | expression _ (some left) op none => by
    cases op with
    | not => exact (left.ofStep_evaluate store).map
    | _ => exact .fail ⟨nofun, nofun⟩
  | expression _ none op none => by cases op <;> exact .fail ⟨nofun, nofun⟩
  | declaration .. | print .. | branch .. | loopUntil .. | loopFromTo .. | function .. | ret ..
  | unsupported .. => .fail ⟨nofun, nofun⟩

lemma ofStep_holds (n : Node) (store : Store) : FailsWith Fault.OfStep (n.holds store) :=
  (n.ofStep_evaluate store).map

lemma ofStep_evaluateNumber (n : Node) (store : Store) :
    FailsWith Fault.OfStep (n.evaluateNumber store "from_to") :=
  (n.ofStep_evaluate store).bind fun v => v.ofStep_requireNumber (by decide)

lemma ofStep_printed (n : Node) (store : Store) : FailsWith Fault.OfStep (n.printed store) := by
  cases n with
  | identifier line name =>
    unfold printed
    dsimp only
    split <;> exact .ok
  | _ =>
    rw [printed_of_ne]
    · exact (ofStep_evaluate store _).map
    · exact fun _ _ => nofun

end Node

namespace Guard

lemma ofStep_test (guard : Guard) (store : Store) : FailsWith Fault.OfStep (guard.loop.test store) := by
  cases guard with
  | conditional line condition => exact condition.negated.ofStep_holds store
  | counting line counter last =>
    exact (store.ofStep_counter counter).bind fun x => (last.ofStep_evaluateNumber store).bind fun y => .ok

lemma ofStep_advance (guard : Guard) (s : State) : FailsWith Fault.OfStep (guard.loop.advance s) := by
  cases guard with
  | conditional line condition => exact .ok
  | counting line counter last => exact (s.store.ofStep_counter counter).bind fun x => .ok

end Guard

/-- A stage halts for the fault of its step, or as its check holds when no round is left. -/
lemma Stage.Halts.ofStep_or_overrun {budget : Budget} {stage : Stage} {s : State} {cause : Fault}
    (halts : stage.Halts budget s (.fault cause)) : cause.OfStep ∨ ∃ limit guard,
      budget = .limit limit ∧ stage = .check guard 0 ∧ guard.loop.test s.store = .ok true ∧
        cause = .tooManyRounds limit (guard.check s true).line := by
  generalize fault : Halt.fault cause = halt at halts
  cases halts with
  | declaration fails =>
    cases fault
    exact .inl (Node.ofStep_evaluate _ _ _ fails)
  | print fails =>
    cases fault
    exact .inl (Node.ofStep_printed _ _ _ fails)
  | branch fails =>
    cases fault
    exact .inl (Node.ofStep_holds _ _ _ fails)
  | loopFromTo fails =>
    cases fault
    exact .inl (Node.ofStep_evaluateNumber _ _ _ fails)
  | misplaced =>
    cases fault
    exact .inl ⟨nofun, nofun⟩
  | check fails =>
    cases fault
    exact .inl (Guard.ofStep_test _ _ _ fails)
  | overrun checks =>
    cases budget <;> cases fault
    exact .inr ⟨_, _, rfl, rfl, checks, rfl⟩
  | advance fails =>
    cases fault
    exact .inl (Guard.ofStep_advance _ _ _ fails)

/-- Where a stage halts for an operand, the fault names one of the operations. -/
lemma Stage.Halts.named {budget : Budget} {stage : Stage} {s : State} {cause : Fault}
    (halts : stage.Halts budget s (.fault cause)) : cause.Named := by
  rcases halts.ofStep_or_overrun with ofStep | ⟨limit, guard, -, -, -, rfl⟩
  · exact ofStep.named
  · exact nofun

/-- On two values, `+`, `==`, `!=`, `and` and `or` never fail. Subtraction and multiplication fail exactly
where an operand does not count as a number, and the first such operand is named; so does division, and
also where both operands count as numbers and the second one is zero. A comparison by order fails exactly
where the values are not both texts, and one of them does not count as a number or counts as what is no
number. When a program fails for an operand, then one of these operations is named, or the bound of a loop
or of a substring. -/
theorem operand_faults (a b : Value) (p : Program) (budget : Budget) (clock : Clock) :
    (∀ op ∈ [Operator.add, .equal, .notEqual, .and, .or], ∃ v, Value.binary op a b = .ok v) ∧
    (∀ op ∈ [Operator.sub, .mul], ∀ cause,
      Value.binary op a b = .error cause ↔
        ∃ v, Value.unfit? a b = some v ∧ cause = .badOperand op.symbol v.inQuotes) ∧
    (∀ cause, Value.binary .div a b = .error cause ↔
      (∃ v, Value.unfit? a b = some v ∧ cause = .badOperand "/" v.inQuotes) ∨
        cause = .divisionByZero ∧
          ∃ x y, a.toNumber? = some x ∧ b.toNumber? = some y ∧ (y == 0.0) = true) ∧
    (∀ op : Operator, op.isOrdering = true → ∀ cause,
      Value.binary op a b = .error cause ↔ (a.text? = none ∨ b.text? = none) ∧
        ((∃ v, Value.unfit? a b = some v ∧ cause = .badOperand op.symbol v.inQuotes) ∨
          ∃ x y, a.toNumber? = some x ∧ b.toNumber? = some y ∧ (x.isNaN = true ∨ y.isNaN = true) ∧
            cause = .badOperand op.symbol (plainText x ++ " and " ++ plainText y))) ∧
    ∀ operation value, p.trace budget clock = .error (.fault (.badOperand operation value)) →
      operation ∈ Fault.operations := by
  refine ⟨fun op mem => ?_, fun op mem cause => ?_, fun cause => Value.divide_eq_error_iff,
    fun op ordering cause => ?_, fun operation value fails => ?_⟩
  · simp only [List.mem_cons, List.not_mem_nil, or_false] at mem
    rcases mem with rfl | rfl | rfl | rfl | rfl
    · exact Value.exists_add a b
    all_goals exact ⟨_, rfl⟩
  · simp only [List.mem_cons, List.not_mem_nil, or_false] at mem
    rcases mem with rfl | rfl
    all_goals exact Value.arithmetic_eq_error_iff
  · exact (Value.binary_eq_error_iff_of_ordering ordering).trans Value.order_eq_error_iff
  · obtain ⟨stage, log, s, -, halts⟩ := Program.trace_eq_error_iff.1 fails
    exact halts.named operation value rfl

/-- A loop that runs until a word is less than a number. -/
def untilLess : Program where
  statements := [
    .declaration (some 1) "w" (.string none "word"),
    .loopUntil (some 2)
      (.expression none (some (.identifier none "w")) .less (some (.number none 1))) []]

/-- The fault of `untilLess` names the flipped comparison. The word can be joined to the number, but it
cannot be divided by it. -/
theorem operand_faults_untilLess :
    let word := Value.text "word"
    untilLess.trace (.limit 5) (.steps 0 1) = .error (.fault (.badOperand ">=" "\"word\"")) ∧
      ">=" ∈ Fault.operations ∧ (∃ v, Value.binary .add word (.number 1) = .ok v) ∧
      Value.binary .div word (.number 1) = .error (.badOperand "/" "\"word\"") ∧
      Value.binary .mul (.number 2) word = .error (.badOperand "*" "\"word\"") ∧
      Value.binary .less word (.number 1) = .error (.badOperand "<" "\"word\"") := by
  intro word
  have fails : untilLess.trace (.limit 5) (.steps 0 1) =
      .error (.fault (.badOperand ">=" "\"word\"")) := rfl
  obtain ⟨total, -, quotient, orders, named⟩ :=
    operand_faults word (.number 1) untilLess (.limit 5) (.steps 0 1)
  obtain ⟨-, product, -⟩ := operand_faults (.number 2) word untilLess (.limit 5) (.steps 0 1)
  have unfit : Value.unfit? word (.number 1) = some word := rfl
  have unfit' : Value.unfit? (.number 2) word = some word := rfl
  exact ⟨fails, named _ _ fails, total .add (by decide), (quotient _).2 (.inl ⟨word, unfit, rfl⟩),
    (product .mul (by decide) _).2 ⟨word, unfit', rfl⟩,
    (orders .less rfl _).2 ⟨.inr rfl, .inl ⟨word, unfit, rfl⟩⟩⟩

end Playback
