import Playback.Node.Basic
import Playback.Value.Basic

/-!
# Conditions

The text of an expression, as it is shown beside the check of a condition, and the condition that
holds exactly when another one does not. Both depend on the shape of the expression alone and never
on the values of variables.
-/

namespace Playback

/-- An operator between the texts of its operands; `not` stands before the right one and has no
left one. -/
def Operator.applied (op : Operator) (left right : String) : String :=
  if op.isUnary then op.symbol ++ right else left ++ " " ++ op.symbol ++ " " ++ right

/-- An operand with operator `child` needs parentheses when it binds less strongly than its parent,
and on the right also when it binds equally and the parent's operands may not be regrouped. -/
def Operator.encloses (parent child : Operator) (onRight : Bool) : Bool :=
  if child.precedence = parent.precedence then onRight && !parent.regroups
  else decide (child.precedence < parent.precedence)

namespace Node

/-- The operator of an expression with two operands. -/
def binaryOperator? : Node → Option Operator
  | expression _ _ op _ => if op.isUnary then none else some op
  | _ => none

/-- The text of an operand, in parentheses where the parent needs them. -/
def enclosed (parent : Operator) (onRight : Bool) (operand : Node) (text : String) : String :=
  match operand.binaryOperator? with
  | some child => if parent.encloses child onRight then "(" ++ text ++ ")" else text
  | none => text

mutual

/-- The text of an expression. A text literal stands between quotes as it is. -/
def text : Node → String
  | identifier _ name => name
  | number _ value => numberText value
  | string _ value => "\"" ++ value ++ "\""
  | boolean _ value => if value then "true" else "false"
  | length _ source => "length of " ++ source
  | substring _ source first last =>
    "substring of " ++ source ++ " from " ++ first.text ++ " to " ++ last.text
  | expression _ left op right =>
    if op.isUnary then
      match right with
      | some _ => op.applied "" (operandText op true right)
      | none => op.applied "" (operandText op true left)
    else op.applied (operandText op false left) (operandText op true right)
  | n => n.kind

/-- The text of an operand that may be absent. -/
def operandText (parent : Operator) (onRight : Bool) : Option Node → String
  | none => "?"
  | some n => enclosed parent onRight n n.text

end

/-- The node behind `not`, at the line of the node. -/
def wrapped (n : Node) : Node :=
  expression n.line none .not (some n)

/-- The condition that holds exactly when `n` does not. A comparison is flipped, `not` is taken
away, `and` and `or` change places, and anything else is put behind `not`; the line stays. -/
def negated : Node → Node
  | boolean line value => boolean line !value
  | expression line _ .not (some operand) => operand.atLine line
  | expression line (some operand) .not none => operand.atLine line
  | expression line (some left) .and (some right) =>
    expression line (some left.negated) .or (some right.negated)
  | expression line (some left) .or (some right) =>
    expression line (some left.negated) .and (some right.negated)
  | expression line (some left) op (some right) =>
    match op.flipped? with
    | some flip => expression line (some left) flip (some right)
    | none => wrapped (expression line (some left) op (some right))
  | n => wrapped n

end Node

end Playback
