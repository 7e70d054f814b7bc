import Playback.Json.Number
import Playback.Json.Token

/-!
# Reading JSON

A text is read in two steps. `RawJson.ofText?` reads its structure: the result has strings as
they are spelled, and nothing is said yet about the depth of nesting, the range of numbers or the
pairing of surrogates. `RawJson.decode?` settles these three and gives a `Json`. A part of a text
that is never decoded is checked for its structure only.
-/

namespace Playback

/-- A JSON value as it is spelled. -/
abbrev RawJson := JsonTree (List Piece)

namespace RawJson

/-! ## Structure -/

/-- An array or an object that is not closed yet. What it holds so far is kept in reverse. -/
inductive Unclosed where
  | array (done : List RawJson)
  /-- The field called `key` waits for its value. -/
  | object (done : List (List Piece × RawJson)) (key : List Piece)

/-- What the tokens so far have built, and what may follow. The innermost unclosed container comes
first. -/
inductive Partial where
  /-- A value must follow. -/
  | value (outer : List Unclosed)
  /-- An array was opened: a value or its end must follow. -/
  | opened (outer : List Unclosed)
  /-- A name must follow, or the end of the object when `mayClose` holds. -/
  | name (done : List (List Piece × RawJson)) (mayClose : Bool) (outer : List Unclosed)
  /-- A colon must follow the name `key`. -/
  | named (done : List (List Piece × RawJson)) (key : List Piece) (outer : List Unclosed)
  /-- The value `v` is complete: a comma or the end of its container must follow. -/
  | complete (v : RawJson) (outer : List Unclosed)

/-- A token where a value must follow. -/
def beginValue? (outer : List Unclosed) : Token → Option Partial
  | .null => some (.complete .null outer)
  | .bool b => some (.complete (.bool b) outer)
  | .number n => some (.complete (.number n) outer)
  | .string ps => some (.complete (.string ps) outer)
  | .openArray => some (.opened outer)
  | .openObject => some (.name [] true outer)
  | _ => none

/-- The step over one token. -/
def step? : Partial → Token → Option Partial
  | .value outer, t => beginValue? outer t
  | .opened outer, .closeArray => some (.complete (.array []) outer)
  | .opened outer, t => beginValue? (.array [] :: outer) t
  | .name done _ outer, .string key => some (.named done key outer)
  | .name done true outer, .closeObject => some (.complete (.object done.reverse) outer)
  | .named done key outer, .colon => some (.value (.object done key :: outer))
  | .complete v (.array done :: outer), .comma => some (.value (.array (v :: done) :: outer))
  | .complete v (.array done :: outer), .closeArray =>
    some (.complete (.array (v :: done).reverse) outer)
  | .complete v (.object done key :: outer), .comma =>
    some (.name ((key, v) :: done) false outer)
  | .complete v (.object done key :: outer), .closeObject =>
    some (.complete (.object ((key, v) :: done).reverse) outer)
  | _, _ => none

/-- Reads on from `p`; at the end one value is complete and nothing is unclosed. -/
def build? (p : Partial) : List Token → Option RawJson
  | [] =>
    match p with
    | .complete v [] => some v
    | _ => none
  | t :: ts =>
    match step? p t with
    | none => none
    | some q => build? q ts

/-- The value that a sequence of tokens spells. -/
def ofTokens? (ts : List Token) : Option RawJson :=
  build? (.value []) ts

/-- The value that a text spells. -/
def ofText? (text : String) : Option RawJson :=
  (Token.scan? text).bind ofTokens?

/-! ## Decoding -/

/-- How many arrays and objects may stand inside one another. -/
def depthLimit : Nat := 127

/-- The character that a pair of surrogates stands for. -/
def joinHalves? (first second : Nat) : Option Char :=
  if first < 0xdc00 ∧ 0xdc00 ≤ second then
    some (Char.ofNat (0x10000 + (first - 0xd800) * 0x400 + (second - 0xdc00)))
  else none

/-- The characters of a string, with those before it in reverse. Halves of surrogate pairs must
come in pairs. -/
def decodeFrom? (done : List Char) : List Piece → Option (List Char)
  | [] => some done.reverse
  | .char c :: ps => decodeFrom? (c :: done) ps
  | .half u :: .half v :: ps =>
    match joinHalves? u v with
    | none => none
    | some c => decodeFrom? (c :: done) ps
  | .half _ :: _ => none

/-- The text of a string. -/
def decodeText? (ps : List Piece) : Option String :=
  (decodeFrom? [] ps).map String.ofList

mutual

/-- Decodes a value in which `depth` more containers may stand inside one another. -/
def decode? (depth : Nat) : RawJson → Option Json
  | .null => some .null
  | .bool b => some (.bool b)
  | .number n => if n.isInRange then some (.number n) else none
  | .string ps => (decodeText? ps).map .string
  | .array vs => if depth = 0 then none else (decodeAll? (depth - 1) vs).map .array
  | .object fs => if depth = 0 then none else (decodeFields? (depth - 1) fs).map .object

/-- Decodes the elements of an array. -/
def decodeAll? (depth : Nat) : List RawJson → Option (List Json)
  | [] => some []
  | v :: vs => do
    let w ← decode? depth v
    let ws ← decodeAll? depth vs
    some (w :: ws)

/-- Decodes the fields of an object, names and values. Of several fields with one name only the last
is kept. -/
def decodeFields? (depth : Nat) : List (List Piece × RawJson) → Option (List (String × Json))
  | [] => some []
  | (k, v) :: rest => do
    let key ← decodeText? k
    let w ← decode? depth v
    let ws ← decodeFields? depth rest
    some (if (Json.get? key ws).isSome then ws else (key, w) :: ws)

end

end RawJson

/-- The value of a JSON text. -/
def Json.ofText? (text : String) : Option Json :=
  (RawJson.ofText? text).bind (RawJson.decode? RawJson.depthLimit)

end Playback
