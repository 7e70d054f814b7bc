import Playback.Node.Tag
import Playback.Operator

/-!
# Nodes

The tree of a program. A node is a statement or an expression, at a line of the source or at none;
what is not recognised while reading is a node too, and carries the name of its kind.
-/

namespace Playback

/-- A part of a program. -/
inductive Node where
  /-- Sets a variable. -/
  | declaration (line : Option UInt32) (name : String) (value : Node)
  /-- Prints a value. -/
  | print (line : Option UInt32) (value : Node)
  /-- Runs `consequent` when the condition holds, and `alternate`, if there is one, when not. -/
  | branch (line : Option UInt32) (condition : Node) (consequent : List Node)
      (alternate : Option (List Node))
  /-- Runs `body` until the condition holds. -/
  | loopUntil (line : Option UInt32) (condition : Node) (body : List Node)
  /-- Runs `body` for the values of `counter` from `first` to `last`, both included. -/
  | loopFromTo (line : Option UInt32) (counter : String) (first last : Node) (body : List Node)
  /-- Defines a function; its body runs where it is defined. -/
  | function (line : Option UInt32) (name : String) (params : List String) (body : List Node)
  /-- Ends the function, or the program. -/
  | ret (line : Option UInt32) (value : Node)
  /-- Applies an operator. The operand of `not` is on the right, or else on the left. -/
  | expression (line : Option UInt32) (left : Option Node) (op : Operator) (right : Option Node)
  /-- Reads a variable. -/
  | identifier (line : Option UInt32) (name : String)
  | number (line : Option UInt32) (value : Float)
  | string (line : Option UInt32) (value : String)
  | boolean (line : Option UInt32) (value : Bool)
  /-- The length of a variable's text. -/
  | length (line : Option UInt32) (source : String)
  /-- A part of a variable's text. -/
  | substring (line : Option UInt32) (source : String) (first last : Node)
  /-- A kind of node that is not known. -/
  | unsupported (line : Option UInt32) (kind : String)
deriving Inhabited

namespace Node

/-- The name of a node's kind. -/
def kind : Node → String
  | declaration .. => Tag.declaration.name
  | print .. => Tag.print.name
  | branch .. => Tag.branch.name
  | loopUntil .. => Tag.loopUntil.name
  | loopFromTo .. => Tag.loopFromTo.name
  | function .. => Tag.function.name
  | ret .. => Tag.ret.name
  | expression .. => Tag.expression.name
  | identifier .. => Tag.identifier.name
  | number .. => Tag.number.name
  | string .. => Tag.string.name
  | boolean .. => Tag.boolean.name
  | length .. => Tag.length.name
  | substring .. => Tag.substring.name
  | unsupported _ kind => kind

/-- The line of a node. -/
def line : Node → Option UInt32
  | declaration l .. | print l _ | branch l .. | loopUntil l .. | loopFromTo l .. | function l ..
  | ret l _ | expression l .. | identifier l _ | number l _ | string l _ | boolean l _
  | length l _ | substring l .. | unsupported l _ => l

/-- The node at another line. -/
def atLine (l : Option UInt32) : Node → Node
  | declaration _ name value => declaration l name value
  | print _ value => print l value
  | branch _ condition consequent alternate => branch l condition consequent alternate
  | loopUntil _ condition body => loopUntil l condition body
  | loopFromTo _ counter first last body => loopFromTo l counter first last body
  | function _ name params body => function l name params body
  | ret _ value => ret l value
  | expression _ left op right => expression l left op right
  | identifier _ name => identifier l name
  | number _ value => number l value
  | string _ value => string l value
  | boolean _ value => boolean l value
  | length _ source => length l source
  | substring _ source first last => substring l source first last
  | unsupported _ kind => unsupported l kind

@[simp] theorem line_atLine (n : Node) (l : Option UInt32) : (n.atLine l).line = l := by
  cases n <;> rfl

@[simp] theorem kind_atLine (n : Node) (l : Option UInt32) : (n.atLine l).kind = n.kind := by
  cases n <;> rfl

end Node

/-- A program is a list of statements. -/
structure Program where
  statements : List Node
deriving Inhabited

end Playback
