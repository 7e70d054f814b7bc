/-!
# Operators

The operators of expressions: their symbols, how strongly they bind, and the comparison that holds
exactly when another one does not.
-/

namespace Playback

/-- An operator. Only `not` takes a single operand. -/
inductive Operator where
  | add
  | sub
  | mul
  | div
  | greater
  | less
  | greaterEq
  | lessEq
  | equal
  | notEqual
  | and
  | or
  | not
deriving DecidableEq, Repr, Inhabited

namespace Operator

/-- The symbol shown in conditions and messages. -/
def symbol : Operator → String
  | add => "+"
  | sub => "-"
  | mul => "*"
  | div => "/"
  | greater => ">"
  | less => "<"
  | greaterEq => ">="
  | lessEq => "<="
  | equal => "=="
  | notEqual => "!="
  | and => "and"
  | or => "or"
  | not => "!"

/-- The operator written as `name`: a symbol, or another spelling of a logical operator. -/
def named? (name : String) : Option Operator :=
  match name with
  | "+" => some add
  | "-" => some sub
  | "*" => some mul
  | "/" => some div
  | ">" => some greater
  | "<" => some less
  | ">=" => some greaterEq
  | "<=" => some lessEq
  | "==" => some equal
  | "!=" => some notEqual
  | "and" | "&&" => some and
  | "or" | "||" => some or
  | "not" | "!" => some not
  | _ => none

/-- `not` takes a single operand. -/
def isUnary (op : Operator) : Bool :=
  op == not

/-- The comparison that holds exactly when `op` does not. -/
def flipped? : Operator → Option Operator
  | greater => some lessEq
  | lessEq => some greater
  | less => some greaterEq
  | greaterEq => some less
  | equal => some notEqual
  | notEqual => some equal
  | _ => none

/-- How strongly an operator binds its operands. -/
def precedence : Operator → Nat
  | or => 1
  | and => 2
  | greater | less | greaterEq | lessEq | equal | notEqual => 3
  | add | sub => 4
  | mul | div => 5
  | not => 6

/-- Operands may be regrouped without parentheses: `a + (b - c)` is shown as `a + b - c`. -/
def regroups : Operator → Bool
  | add | mul | and | or => true
  | _ => false

/-- Every operator is written as its symbol. -/
@[simp] theorem named?_symbol (op : Operator) : named? op.symbol = some op := by
  cases op <;> rfl

/-- Flipping twice gives the comparison back. -/
theorem flipped?_flipped? {op flip : Operator} (h : op.flipped? = some flip) :
    flip.flipped? = some op := by
  cases op <;> simp_all [flipped?] <;> subst h <;> rfl

end Operator

end Playback
