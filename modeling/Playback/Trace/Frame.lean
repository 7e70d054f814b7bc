import Playback.Value.Basic

/-!
# Frames

The observable steps of a run. A frame has a line, a stamp and an action; a definition also holds
the frames of its body. The type of stamps is a parameter: in a trace they are times, and what is said of
frames without their times has another type there.
-/

namespace Playback

/-- The kinds of loops. -/
inductive LoopKind where
  /-- Runs until a condition holds. -/
  | conditional
  /-- Counts from one number to another. -/
  | counting
deriving DecidableEq, Repr

/-- What a frame shows, definitions aside. -/
inductive Action where
  /-- A variable is set. -/
  | set (name : String) (type : ValueType) (value : Value)
  /-- A value is printed: that of the variable `name`, or a literal. -/
  | print (isLiteral : Bool) (name : Option String) (literal : Value)
  /-- A condition is checked. -/
  | check (condition : String) (result : Bool)
  | endBranch
  /-- A loop begins that runs until something holds; the condition is the one to go on. -/
  | loopUntil (condition : String)
  /-- A counting loop begins. -/
  | loopFromTo (condition : String)
  | endLoop (kind : LoopKind)
  /-- A function or the program returns. -/
  | ret (value : String)
deriving DecidableEq

/-- A step with a stamp of type `τ`. -/
inductive Frame (τ : Type) where
  | plain (line : UInt32) (stamp : τ) (action : Action)
  | define (line : UInt32) (stamp : τ) (name : String) (params : List String)
      (body : List (Frame τ))
deriving Inhabited

/-- The name of an action. -/
def Action.operation : Action → String
  | set .. => "set"
  | print .. => "print"
  | check .. => "if"
  | endBranch => "endif"
  | loopUntil _ => "while"
  | loopFromTo _ => "loop_from_to"
  | endLoop _ => "loop_end"
  | ret _ => "return"

/-- What happens to a variable that is set. A slice is described by where it comes from. -/
def Action.setText (name : String) : Value → String
  | .slice s =>
    if s.first = s.last then
      "Set variable " ++ name ++ " to an empty string as start and end indices are identical."
    else
      "Set variable " ++ name ++ " to a substring of " ++ s.source ++ " from index "
        ++ toString s.first ++ " to " ++ toString s.last ++ "."
  | v => "Set variable " ++ name ++ " to " ++ v.display ++ "."

/-- The description of an action. -/
def Action.description : Action → String
  | set name _ value => setText name value
  | print false (some name) _ => "Printed " ++ name ++ "."
  | print _ _ literal => "Printed " ++ literal.display ++ "."
  | check condition _ => "Checked if " ++ condition ++ "."
  | endBranch => "End of if statement."
  | loopUntil condition => "while loop with condition " ++ condition ++ "."
  | loopFromTo condition => "loop from_to loop with condition " ++ condition ++ "."
  | endLoop .conditional => "End of while loop"
  | endLoop .counting => "End of loop from_to loop"
  | ret value => "Returned " ++ value ++ "."

namespace Frame

variable {τ : Type}

/-- The line of a frame. -/
def line : Frame τ → UInt32
  | plain line _ _ => line
  | define line .. => line

/-- The stamp of a frame. -/
def stamp : Frame τ → τ
  | plain _ stamp _ => stamp
  | define _ stamp .. => stamp

/-- The name of what a frame shows. -/
def operation : Frame τ → String
  | plain _ _ action => action.operation
  | define .. => "define"

/-- The description of a frame. -/
def description : Frame τ → String
  | plain _ _ action => action.description
  | define _ _ name params _ =>
    "Defined function " ++ name ++ " with parameters " ++ String.intercalate ", " params

/-- The line behind `l`; there is none behind the greatest. -/
def lineAfter (l : UInt32) : UInt32 :=
  UInt32.ofNat (min (l.toNat + 1) (UInt32.size - 1))

/-! ## Printed values -/

mutual

/-- Adds what a frame and the frames inside it print, in reverse. -/
def printsOnto (done : List String) : Frame τ → List String
  | plain _ _ (.print _ _ literal) => literal.display :: done
  | plain .. => done
  | define _ _ _ _ body => printsOfOnto done body

/-- Adds what frames print, in reverse. -/
def printsOfOnto (done : List String) : List (Frame τ) → List String
  | [] => done
  | f :: fs => printsOfOnto (printsOnto done f) fs

end

/-- All that frames print, in order. -/
def prints (frames : List (Frame τ)) : List String :=
  (printsOfOnto [] frames).reverse

end Frame

end Playback
