import Playback.Document

/-!
# Surveys

What a program consists of, whether it is ever run or not: how many statements and nodes it has,
and which of its nodes are unsupported.
-/

namespace Playback

namespace Node

mutual

/-- Adds a node and all the nodes inside it to those so far, which are in reverse. -/
def nodesOnto (done : List Node) (n : Node) : List Node :=
  match n with
  | declaration _ _ value => nodesOnto (n :: done) value
  | print _ value => nodesOnto (n :: done) value
  | branch _ condition consequent alternate =>
    let before := nodesOfOnto (nodesOnto (n :: done) condition) consequent
    match alternate with
    | some statements => nodesOfOnto before statements
    | none => before
  | loopUntil _ condition body => nodesOfOnto (nodesOnto (n :: done) condition) body
  | loopFromTo _ _ first last body =>
    nodesOfOnto (nodesOnto (nodesOnto (n :: done) first) last) body
  | function _ _ _ body => nodesOfOnto (n :: done) body
  | ret _ value => nodesOnto (n :: done) value
  | expression _ left _ right => nodesOfOptionOnto (nodesOfOptionOnto (n :: done) left) right
  | substring _ _ first last => nodesOnto (nodesOnto (n :: done) first) last
  | _ => n :: done

/-- Adds nodes and all the nodes inside them. -/
def nodesOfOnto (done : List Node) : List Node → List Node
  | [] => done
  | n :: ns => nodesOfOnto (nodesOnto done n) ns

/-- Adds a node that may be absent, and all the nodes inside it. -/
def nodesOfOptionOnto (done : List Node) : Option Node → List Node
  | none => done
  | some n => nodesOnto done n

end

/-- Where a node is that is unsupported, and what it calls itself. -/
def stranger? : Node → Option (Option UInt32 × String)
  | unsupported line kind => some (line, kind)
  | _ => none

end Node

/-- All the nodes of a program, each before the nodes inside it. -/
def Program.nodes (p : Program) : List Node :=
  (Node.nodesOfOnto [] p.statements).reverse

/-- What a program consists of. -/
structure Survey where
  statements : Nat
  nodes : Nat
  /-- The lines and the kinds of the unsupported nodes, in their order. -/
  unsupported : List (Option UInt32 × String)
deriving DecidableEq, Repr

namespace Survey

/-- The survey of a program. -/
def ofProgram (p : Program) : Survey where
  statements := p.statements.length
  nodes := p.nodes.length
  unsupported := p.nodes.filterMap Node.stranger?

/-- The survey of the program that the text of a document writes. -/
def ofText? (text : String) : Option Survey :=
  (Program.ofText? text).map ofProgram

/-- All nodes are supported. -/
def isClean (s : Survey) : Bool :=
  s.unsupported.isEmpty

/-- The complaint about an unsupported node. -/
def complaint : Option UInt32 × String → String
  | (some line, kind) =>
    "error: line " ++ toString line.toNat ++ ": unsupported IR node '" ++ kind ++ "'"
  | (none, kind) => "error: unsupported IR node '" ++ kind ++ "'"

end Survey

end Playback
