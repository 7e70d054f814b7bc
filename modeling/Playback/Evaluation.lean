import Playback.Node.Basic
import Playback.Store
import Playback.Value.Operation

/-!
# Evaluation

The value of an expression in a store. Operands are evaluated from left to right, all of them, and
the first fault is the fault of the whole. Only a substring expression itself yields a slice.
-/

namespace Playback

/-- The number that a value counts as, in the context named in the fault. -/
def Value.requireNumber (context : String) (v : Value) : Except Fault Float :=
  match v.toNumber? with
  | some x => .ok x
  | none => .error (.badOperand context v.inQuotes)

/-- A bound of a substring. -/
def Value.requireIndex (v : Value) : Except Fault Int :=
  (v.requireNumber "substring").map Binary.truncate

/-- The number of characters of a value as it is shown. -/
def Value.length (v : Value) : Value :=
  .number (Float.ofNat v.display.length)

/-- The part of a list from `first` to before `last`, both limited to the list. -/
def between {α : Type} (xs : List α) (first last : Int) : List α :=
  let lo := min first.toNat xs.length
  let hi := min last.toNat xs.length
  (xs.drop lo).take (hi - lo)

/-- Cuts a slice out of the value of the variable `source`. -/
def Value.cut (v : Value) (source : String) (first last : Int) : Except Fault Value :=
  if last < first then .error (.badRange first last)
  else .ok (.slice ⟨source, first, last, String.ofList (between v.display.toList first last)⟩)

namespace Node

/-- The value of an expression. -/
def evaluate (store : Store) : Node → Except Fault Value
  | identifier _ name => (store.read name).map Value.primitive
  | number _ value => .ok (.number value)
  | string _ value => .ok (.text value)
  | boolean _ value => .ok (.truth value)
  | length _ source => (store.read source).map Value.length
  | substring _ source first last => do
    let v ← store.read source
    let a ← (← first.evaluate store).requireIndex
    let b ← (← last.evaluate store).requireIndex
    v.cut source a b
  | expression _ left op right =>
    if op.isUnary then
      match right with
      | some operand => (operand.evaluate store).map Value.negation
      | none =>
        match left with
        | some operand => (operand.evaluate store).map Value.negation
        | none => .error (.unsupported Tag.expression.name)
    else
      match left with
      | some l =>
        match right with
        | some r => do
          let a ← l.evaluate store
          let b ← r.evaluate store
          Value.binary op a.primitive b.primitive
        | none => .error (.unsupported Tag.expression.name)
      | none => .error (.unsupported Tag.expression.name)
  | n => .error (.unsupported n.kind)

section

variable (store : Store) (line : Option UInt32)

/-- The operand of `not` is on the right. -/
@[simp] theorem evaluate_not_right (left : Option Node) (operand : Node) :
    (expression line left .not (some operand)).evaluate store =
      (operand.evaluate store).map Value.negation := by
  cases left <;> rfl

/-- The operand of `not` is on the left when there is none on the right. -/
@[simp] theorem evaluate_not_left (operand : Node) :
    (expression line (some operand) .not none).evaluate store =
      (operand.evaluate store).map Value.negation := rfl

/-- Both operands are evaluated, the left one first. -/
theorem evaluate_binary {op : Operator} (h : op.isUnary = false) (left right : Node) :
    (expression line (some left) op (some right)).evaluate store = (do
      let a ← left.evaluate store
      let b ← right.evaluate store
      Value.binary op a.primitive b.primitive) := by
  cases op with
  | not => cases h
  | _ => rfl

end

/-- Whether the value of an expression counts as true. -/
def holds (store : Store) (n : Node) : Except Fault Bool :=
  (n.evaluate store).map Value.isTruthy

/-- The number that the value of an expression counts as. -/
def evaluateNumber (store : Store) (context : String) (n : Node) : Except Fault Float := do
  let v ← n.evaluate store
  v.requireNumber context

end Node

end Playback
