import Playback.Json.Basic
import Playback.Json.Number
import Playback.Node.Basic

/-!
# Reading nodes

Every JSON value reads as a node. An object is recognised by its `type` and by the fields that this
type needs; an object that is not, and a value that no node is written as, reads as an unsupported
node. Nothing that is wrong inside a child spoils its parent.
-/

namespace Playback

namespace Node

/-! ## Fields -/

/-- A line number is a whole number of 32 bits. -/
def lineNumber? : Json → Option UInt32
  | .number n =>
    match n.natural? with
    | some k => if k < UInt32.size then some (UInt32.ofNat k) else none
    | none => none
  | _ => none

/-- The line of an object, which may be absent or `null`. -/
def lineField? (fields : List (String × Json)) : Option (Option UInt32) :=
  match Json.get? "line" fields with
  | none | some .null => some none
  | some v => (lineNumber? v).map some

/-- The tag of an object, by its name or its number. -/
def tagField? (fields : List (String × Json)) : Option Tag :=
  match Json.get? "type" fields with
  | some (.string name) => Tag.named? name
  | some (.number n) => n.natural?.bind Tag.numbered?
  | _ => none

/-- A text. -/
def textField? (key : String) (fields : List (String × Json)) : Option String :=
  (Json.get? key fields).bind Json.text?

/-- A number of any form. -/
def numberField? (key : String) (fields : List (String × Json)) : Option Float :=
  match Json.get? key fields with
  | some (.number n) => some n.jsonFloat
  | _ => none

/-- A truth value. -/
def boolField? (key : String) (fields : List (String × Json)) : Option Bool :=
  match Json.get? key fields with
  | some (.bool b) => some b
  | _ => none

/-- A list of texts, empty when it is absent. -/
def textsField? (key : String) (fields : List (String × Json)) : Option (List String) :=
  match Json.get? key fields with
  | none => some []
  | some (.array vs) => vs.mapM Json.text?
  | some _ => none

/-- The name of an identifier, under `name` or under `value` but not under both. -/
def identifierField? (fields : List (String × Json)) : Option String :=
  match Json.get? "name" fields, Json.get? "value" fields with
  | some v, none | none, some v => v.text?
  | _, _ => none

/-- An operator by its name, or an object with this name as its only key and nothing as its
value. -/
def operatorField? (fields : List (String × Json)) : Option Operator :=
  match Json.get? "operator" fields with
  | some (.string name) => Operator.named? name
  | some (.object [(name, .null)]) | some (.object [(name, .object [])]) => Operator.named? name
  | _ => none

/-- The field is there and is not `null`. -/
def isGiven (key : String) (fields : List (String × Json)) : Bool :=
  match Json.get? key fields with
  | none | some .null => false
  | some _ => true

/-! ## Objects -/

/-- Reads an object, given how the values of its fields read: one as a node (`child`), one as a
list of nodes (`children`), one as the two bounds of a loop (`bounds`). -/
def ofFields? (fields : List (String × Json)) (child : String → Option Node)
    (children : String → Option (List Node)) (bounds : String → Option (Node × Node)) :
    Option Node := do
  let line ← lineField? fields
  match ← tagField? fields with
  | .declaration => some (declaration line (← textField? "name" fields) (← child "value"))
  | .print => some (print line (← child "value"))
  | .branch =>
    let condition ← child "condition"
    let consequent ← children "consequent"
    if isGiven "alternate" fields then
      some (branch line condition consequent (some (← children "alternate")))
    else some (branch line condition consequent none)
  | .loopUntil => some (loopUntil line (← child "condition") (← children "body"))
  | .loopFromTo =>
    let counter ← textField? "loopVariable" fields
    let (first, last) ← bounds "range"
    some (loopFromTo line counter first last (← children "body"))
  | .function =>
    let name ← textField? "name" fields
    some (function line name (← textsField? "params" fields) (← children "body"))
  | .ret => some (ret line (← child "value"))
  | .expression =>
    let op ← operatorField? fields
    let left := if isGiven "left" fields then child "left" else none
    let right := if isGiven "right" fields then child "right" else none
    some (expression line left op right)
  | .identifier => some (identifier line (← identifierField? fields))
  | .number => some (number line (← numberField? "value" fields))
  | .string => some (string line (← textField? "value" fields))
  | .boolean => some (boolean line (← boolField? "value" fields))
  | .length => some (length line (← textField? "source" fields))
  | .substring =>
    let source ← textField? "string" fields
    some (substring line source (← child "start") (← child "end"))

/-- The node for an object that is not recognised: its line where it has one, and its type where
that is a text. -/
def unrecognised (fields : List (String × Json)) : Node :=
  unsupported ((Json.get? "line" fields).bind lineNumber?)
    ((textField? "type" fields).getD "<untagged>")

/-! ## Values -/

mutual

/-- The node that a value reads as. -/
def ofJson : Json → Node
  | .null => unsupported none "<null>"
  | .bool b => boolean none b
  | .number n => number none n.jsonFloat
  | .string s => string none s
  | .array _ => unsupported none "<array>"
  | .object fields =>
    (ofFields? fields (fun key => child? key fields) (fun key => children? key fields)
      (fun key => bounds? key fields)).getD (unrecognised fields)

/-- The nodes that values read as. -/
def ofJsons : List Json → List Node
  | [] => []
  | v :: vs => ofJson v :: ofJsons vs

/-- The reading of the field called `key`. -/
def child? (key : String) : List (String × Json) → Option Node
  | [] => none
  | (k, v) :: rest => if k = key then some (ofJson v) else child? key rest

/-- The readings of the elements of the field called `key`. -/
def children? (key : String) : List (String × Json) → Option (List Node)
  | [] => none
  | (k, v) :: rest =>
    if k = key then
      match v with
      | .array vs => some (ofJsons vs)
      | _ => none
    else children? key rest

/-- The readings of the two bounds in the field called `key`: the fields `start` and `end` of an
object, or the elements of a list of two. -/
def bounds? (key : String) : List (String × Json) → Option (Node × Node)
  | [] => none
  | (k, v) :: rest =>
    if k = key then
      match v with
      | .array [first, last] => some (ofJson first, ofJson last)
      | .object fields =>
        match child? "start" fields, child? "end" fields with
        | some first, some last => some (first, last)
        | _, _ => none
      | _ => none
    else bounds? key rest

end

end Node

end Playback
