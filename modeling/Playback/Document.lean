import Playback.Json.Reader
import Playback.Node.Reader

/-!
# Program documents

A document is an object whose field `program` is the list of statements, or a list with this list
as its only element. Other fields of the object are not decoded. What the statements look like
never spoils a document: each of them reads as a node.
-/

namespace Playback

/-- The names of an object's fields, decoded, beside the values as they are spelled. -/
def RawJson.namedFields? : List (List Piece × RawJson) → Option (List (String × RawJson))
  | [] => some []
  | (k, v) :: rest => do
    let key ← decodeText? k
    let fields ← namedFields? rest
    some ((key, v) :: fields)

/-- The values of the fields called `key`. -/
def RawJson.named (key : String) (fields : List (String × RawJson)) : List RawJson :=
  fields.filterMap fun (k, v) => if k = key then some v else none

namespace Program

/-- A list of statements in which `depth` containers may stand inside one another. -/
def ofStatements? (depth : Nat) : RawJson → Option Program
  | .array vs =>
    if depth = 0 then none
    else (RawJson.decodeAll? (depth - 1) vs).map fun values => ⟨Node.ofJsons values⟩
  | _ => none

/-- A document in which `depth` containers may stand inside one another. -/
def ofRaw? (depth : Nat) : RawJson → Option Program
  | .object fs => do
    if depth = 0 then none
    else
      let fields ← RawJson.namedFields? fs
      match RawJson.named "program" fields with
      | [v] => ofStatements? (depth - 1) v
      | _ => none
  | .array [v] => if depth = 0 then none else ofStatements? (depth - 1) v
  | _ => none

/-- The program that the text of a document writes. -/
def ofText? (text : String) : Option Program :=
  (RawJson.ofText? text).bind (ofRaw? RawJson.depthLimit)

end Program

/-- The node that a JSON text writes. -/
def Node.ofText? (text : String) : Option Node :=
  (Json.ofText? text).map Node.ofJson

end Playback
