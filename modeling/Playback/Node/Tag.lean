/-!
# Tags

The fourteen kinds of nodes that a document can name, by name or by number.
-/

namespace Playback

/-- The kinds of nodes, in the order of their numbers. -/
inductive Tag where
  | declaration
  | print
  | branch
  | loopUntil
  | loopFromTo
  | function
  | ret
  | expression
  | identifier
  | number
  | string
  | boolean
  | length
  | substring
deriving DecidableEq, Repr

namespace Tag

/-- All tags, each at its number. -/
def all : List Tag :=
  [declaration, print, branch, loopUntil, loopFromTo, function, ret, expression, identifier,
    number, string, boolean, length, substring]

/-- The name of a tag in a document. -/
def name : Tag → String
  | declaration => "VariableDeclaration"
  | print => "PrintStatement"
  | branch => "IfStatement"
  | loopUntil => "LoopUntil"
  | loopFromTo => "LoopFromTo"
  | function => "FunctionDeclaration"
  | ret => "ReturnStatement"
  | expression => "Expression"
  | identifier => "Identifier"
  | number => "NumberLiteral"
  | string => "StringLiteral"
  | boolean => "BooleanLiteral"
  | length => "LengthExpression"
  | substring => "SubstringExpression"

/-- The tag of a name. -/
def named? (name : String) : Option Tag :=
  all.find? (·.name = name)

/-- The tag of a number. -/
def numbered? (n : Nat) : Option Tag :=
  all[n]?

/-- A tag is found under its name. -/
@[simp] theorem named?_name (t : Tag) : named? t.name = some t := by
  cases t <;> rfl

end Tag

end Playback
