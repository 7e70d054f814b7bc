import Playback.Json.Basic
import Playback.Number.Shortest
import Playback.Text.Blank

/-!
# Values

What variables hold and expressions yield: numbers, texts and truth values, and texts that
remember the substring operation they come from. Such a slice shows its origin in the trace only;
everywhere else it counts as its text.
-/

namespace Playback

/-- A text that was cut out of a variable's text. -/
structure Slice where
  /-- The variable it was cut out of. -/
  source : String
  /-- The bounds as they were asked for; they are whole numbers of 64 bits. -/
  first : Int
  last : Int
  /-- The text itself. -/
  result : String
deriving DecidableEq, Repr, Inhabited

/-- A value. -/
inductive Value where
  | number (x : Float)
  | text (s : String)
  | truth (b : Bool)
  | slice (s : Slice)
deriving DecidableEq, Inhabited

/-- The type of a value. -/
inductive ValueType where
  | number
  | text
  | truth
deriving DecidableEq, Repr, Inhabited

/-- The name of a type in a trace. -/
def ValueType.name : ValueType → String
  | number => "number"
  | text => "string"
  | truth => "boolean"

/-! ## Numbers as text -/

/-- Shown numbers have no exponent and no needless point; a half goes away from zero. -/
def shownStyle : Style where
  tie := .away
  positional _ := true
  keepsPoint := false

/-- Numbers in a document have a point or an exponent, and an exponent below `10 ^ -5` and from
`10 ^ 16` on; a half goes to the even neighbour. -/
def documentStyle : Style where
  tie := .even
  positional e := decide (-5 ≤ e) && decide (e ≤ 15)
  keepsPoint := true

/-- The digits of a number, all of them written out. -/
def plainText (x : Float) : String :=
  if x.isNaN then "NaN"
  else if x.isFinite then (shownStyle.numeral x).text
  else if Binary.isNegative x then "-inf" else "inf"

/-- A number as it is shown: a whole number of moderate size has no sign of zero. -/
def numberText (x : Float) : String :=
  match Binary.exactInt? x with
  | some i => (Numeral.ofInt i).text
  | none => plainText x

/-- A number as it stands in a document. There is no way to write a number that is not finite. -/
def numberJson (x : Float) : Json :=
  match Binary.exactInt? x with
  | some i => Json.ofInt i
  | none => if x.isFinite then .number (documentStyle.numeral x) else .null

namespace Value

/-- The type of a value; a slice is a text. -/
def type : Value → ValueType
  | number _ => .number
  | text _ | slice _ => .text
  | truth _ => .truth

/-- The value without its origin. -/
def primitive : Value → Value
  | slice s => text s.result
  | v => v

/-- The text of a text or a slice. -/
def text? : Value → Option String
  | text s => some s
  | slice s => some s.result
  | _ => none

/-- The value as it is shown. -/
def display : Value → String
  | number x => numberText x
  | text s => s
  | truth b => if b then "true" else "false"
  | slice s => s.result

/-- The value as it is named in messages: texts stand between quotes. -/
def inQuotes (v : Value) : String :=
  match v.text? with
  | some s => "\"" ++ s ++ "\""
  | none => v.display

/-- Whether the value counts as true: zero, the empty text and `false` do not. -/
def isTruthy : Value → Bool
  | number x => x != 0.0
  | text s => s != ""
  | truth b => b
  | slice s => s.result != ""

/-- The number that a text counts as: nothing but blanks is zero, and a numeral between blanks its
value when that is finite. -/
def numberOfText? (s : String) : Option Float :=
  match Text.trim s.toList with
  | [] => some 0.0
  | cs => (Numeral.floatOfChars? cs).filter Float.isFinite

/-- The number that a value counts as. -/
def toNumber? : Value → Option Float
  | number x => some x
  | truth b => some (if b then 1.0 else 0.0)
  | text s => numberOfText? s
  | slice s => numberOfText? s.result

/-- The value as it stands in a document. -/
def toJson : Value → Json
  | number x => numberJson x
  | text s => .string s
  | truth b => .bool b
  | slice s => .object [("operation", .string "substring"), ("source", .string s.source),
      ("start", Json.ofInt s.first), ("end", Json.ofInt s.last), ("result", .string s.result)]

@[simp] theorem type_primitive (v : Value) : v.primitive.type = v.type := by
  cases v <;> rfl

@[simp] theorem text?_primitive (v : Value) : v.primitive.text? = v.text? := by
  cases v <;> rfl

@[simp] theorem display_primitive (v : Value) : v.primitive.display = v.display := by
  cases v <;> rfl

@[simp] theorem isTruthy_primitive (v : Value) : v.primitive.isTruthy = v.isTruthy := by
  cases v <;> rfl

@[simp] theorem toNumber?_primitive (v : Value) : v.primitive.toNumber? = v.toNumber? := by
  cases v <;> rfl

@[simp] theorem primitive_primitive (v : Value) : v.primitive.primitive = v.primitive := by
  cases v <;> rfl

end Value

end Playback
