import Playback.Number.Numeral

/-!
# JSON trees

A JSON value whose strings are of a type `σ`: `Json` holds texts, `RawJson` holds strings as they
are spelled. Numbers are kept as they are written. `Json.get?` looks a field up; of several fields
with one name the last one counts.
-/

namespace Playback

/-- A JSON value over strings of type `σ`. -/
inductive JsonTree (σ : Type) where
  | null
  | bool (b : Bool)
  | number (n : Numeral)
  | string (s : σ)
  | array (elements : List (JsonTree σ))
  | object (fields : List (σ × JsonTree σ))
deriving Inhabited, Repr

/-- A JSON value. -/
abbrev Json := JsonTree String

namespace Json

/-- A whole number. -/
def ofInt (i : Int) : Json := .number (Numeral.ofInt i)

/-- A text, or `null` when there is none. -/
def textOrNull : Option String → Json
  | none => .null
  | some s => .string s

/-- A list of texts. -/
def ofTexts (ss : List String) : Json := .array (ss.map .string)

/-- The value of the field called `key`. -/
def get? (key : String) : List (String × Json) → Option Json
  | [] => none
  | (k, v) :: rest => if k = key then some v else get? key rest

/-- The text of a string. -/
def text? : Json → Option String
  | .string s => some s
  | _ => none

end Json

end Playback
