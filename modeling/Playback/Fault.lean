/-!
# Faults

The causes for which a program has no trace, with the message for each.
-/

namespace Playback

/-- A cause for which a program has no trace. -/
inductive Fault where
  /-- A variable is read that was never set. -/
  | undeclared (name : String)
  /-- The first bound of a substring is greater than the last. -/
  | badRange (first last : Int)
  /-- A node stands where it means nothing. -/
  | unsupported (kind : String)
  /-- An operation does not apply to a value, or to none of the values given. -/
  | badOperand (operation value : String)
  | divisionByZero
  /-- A loop at `line` would begin more than `limit` rounds. -/
  | tooManyRounds (limit : Nat) (line : UInt32)
  /-- The text is not a program document. -/
  | badDocument (reason : String)
deriving DecidableEq, Repr, Inhabited

namespace Fault

/-- The name of a cause. -/
def kind : Fault → String
  | undeclared _ => "UndeclaredVariable"
  | badRange .. => "InvalidSubstringRange"
  | unsupported _ => "UnsupportedNode"
  | badOperand .. => "InvalidOperand"
  | divisionByZero => "DivisionByZero"
  | tooManyRounds .. => "IterationLimitExceeded"
  | badDocument _ => "InvalidJson"

/-- The message for a cause. -/
def message : Fault → String
  | undeclared name => "Variable '" ++ name ++ "' is not declared."
  | badRange first last =>
    "Invalid substring operation: 'start' index (" ++ toString first
      ++ ") cannot be greater than 'end' index (" ++ toString last ++ ")."
  | unsupported kind => "Unsupported IR node: " ++ kind
  | badOperand operation value => "Cannot apply '" ++ operation ++ "' to " ++ value ++ "."
  | divisionByZero => "Division by zero."
  | tooManyRounds limit line =>
    "Loop at line " ++ toString line.toNat ++ " exceeded the iteration limit of "
      ++ toString limit ++ "."
  | badDocument reason => "Invalid IR document: " ++ reason

/-- The cause lies in the document and not in what its program does. -/
def isInternal : Fault → Bool
  | unsupported _ | badDocument _ => true
  | _ => false

end Fault

end Playback
