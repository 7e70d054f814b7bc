import Playback.Fault
import Playback.Operator
import Playback.Value.Basic

/-!
# Operations on values

What the operators do. Texts are joined by `+` and compared by their characters; everything else
counts as a number, except that `==` and `!=` compare what cannot count as a number by how it is
shown, and that `and`, `or` and `not` ask only whether a value counts as true.
-/

namespace Playback.Value

/-- Both operands as numbers; the fault names the first operand that is none. -/
def numbers (op : Operator) (a b : Value) : Except Fault (Float × Float) :=
  match a.toNumber? with
  | none => .error (.badOperand op.symbol a.inQuotes)
  | some x =>
    match b.toNumber? with
    | none => .error (.badOperand op.symbol b.inQuotes)
    | some y => .ok (x, y)

/-- Applies an operation on numbers. -/
def arithmetic (op : Operator) (f : Float → Float → Float) (a b : Value) : Except Fault Value :=
  (numbers op a b).map fun (x, y) => number (f x y)

/-- A text is joined to another text, and to a value of another type when it is not a number. -/
def joins (a b : Value) : Bool :=
  match a.text?, b.text? with
  | some _, some _ => true
  | some _, none => a.toNumber?.isNone
  | none, some _ => b.toNumber?.isNone
  | none, none => false

/-- Joins texts or adds numbers. -/
def add (a b : Value) : Except Fault Value :=
  if joins a b then .ok (text (a.display ++ b.display)) else arithmetic .add (· + ·) a b

/-- Divides by any number but zero. -/
def divide (a b : Value) : Except Fault Value := do
  let (x, y) ← numbers .div a b
  if y == 0.0 then .error .divisionByZero else .ok (number (x / y))

/-- The order of two texts, by the code points of their characters. -/
def orderTexts (s t : String) : Ordering :=
  if s < t then .lt else if s = t then .eq else .gt

/-- The order of two numbers; there is none when one of them is no number. -/
def orderNumbers? (x y : Float) : Option Ordering :=
  if x < y then some .lt
  else if x == y then some .eq
  else if y < x then some .gt
  else none

/-- The order of two values. -/
def order (op : Operator) (a b : Value) : Except Fault Ordering :=
  match a.text?, b.text? with
  | some s, some t => .ok (orderTexts s t)
  | _, _ => do
    let (x, y) ← numbers op a b
    match orderNumbers? x y with
    | some o => .ok o
    | none => .error (.badOperand op.symbol (plainText x ++ " and " ++ plainText y))

/-- Two values are the same text, the same number, or shown the same. -/
def isEqual (a b : Value) : Bool :=
  match a.text?, b.text? with
  | some s, some t => s == t
  | _, _ =>
    match a.toNumber?, b.toNumber? with
    | some x, some y => x == y
    | _, _ => a.display == b.display

/-- Compares two values by their order. -/
def compare (op : Operator) (test : Ordering → Bool) (a b : Value) : Except Fault Value :=
  (order op a b).map fun o => truth (test o)

/-- Applies an operator to two operands. -/
def binary (op : Operator) (a b : Value) : Except Fault Value :=
  match op with
  | .add => add a b
  | .sub => arithmetic .sub (· - ·) a b
  | .mul => arithmetic .mul (· * ·) a b
  | .div => divide a b
  | .equal => .ok (truth (isEqual a b))
  | .notEqual => .ok (truth !(isEqual a b))
  | .less => compare .less Ordering.isLT a b
  | .lessEq => compare .lessEq Ordering.isLE a b
  | .greater => compare .greater Ordering.isGT a b
  | .greaterEq => compare .greaterEq Ordering.isGE a b
  | .and => .ok (truth (a.isTruthy && b.isTruthy))
  | .or => .ok (truth (a.isTruthy || b.isTruthy))
  | .not => .error (.badOperand Operator.not.symbol "two operands")

/-- The opposite of whether a value counts as true. -/
def negation (v : Value) : Value :=
  truth !v.isTruthy

end Playback.Value
