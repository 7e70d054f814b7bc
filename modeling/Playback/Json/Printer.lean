import Playback.Json.Token

/-!
# Printing JSON

A value has one sequence of tokens and two texts: the compact one has nothing between the tokens,
the indented one puts every element and every field on a line of its own.
-/

namespace Playback

namespace Json

/-- A text as a string without escapes for halves of surrogate pairs. -/
def stringToken (s : String) : Token :=
  .string (s.toList.map .char)

mutual

/-- Adds the tokens of a value to those so far, which are in reverse. -/
def tokensOnto (done : List Token) : Json → List Token
  | .null => .null :: done
  | .bool b => .bool b :: done
  | .number n => .number n :: done
  | .string s => stringToken s :: done
  | .array vs => .closeArray :: elementsOnto (.openArray :: done) vs
  | .object fs => .closeObject :: fieldsOnto (.openObject :: done) fs

/-- Adds elements with commas between them. -/
def elementsOnto (done : List Token) : List Json → List Token
  | [] => done
  | v :: vs =>
    match vs with
    | [] => tokensOnto done v
    | _ :: _ => elementsOnto (.comma :: tokensOnto done v) vs

/-- Adds fields with commas between them. -/
def fieldsOnto (done : List Token) : List (String × Json) → List Token
  | [] => done
  | (k, v) :: fs =>
    match fs with
    | [] => tokensOnto (.colon :: stringToken k :: done) v
    | _ :: _ => fieldsOnto (.comma :: tokensOnto (.colon :: stringToken k :: done) v) fs

end

/-- The tokens of a value. -/
def tokens (v : Json) : List Token :=
  (tokensOnto [] v).reverse

/-- The text with nothing between the tokens. -/
def compact (v : Json) : String :=
  v.tokens.foldl (fun text t => text ++ t.text) ""

/-- The start of a line inside `depth` containers, two spaces for each. -/
def newline (depth : Nat) : String :=
  String.ofList ('\n' :: List.replicate (2 * depth) ' ')

/-- What precedes a token, the token, and what follows it, inside `depth` containers; `fresh` holds
right behind an opening bracket, so that an empty container stays on one line. -/
def indentedToken (depth : Nat) (fresh : Bool) (t : Token) : String × Nat × Bool :=
  let lead := if fresh then newline depth else ""
  match t with
  | .openArray | .openObject => (lead ++ t.text, depth + 1, true)
  | .closeArray | .closeObject =>
    ((if fresh then "" else newline (depth - 1)) ++ t.text, depth - 1, false)
  | .comma => (t.text ++ newline depth, depth, false)
  | .colon => (t.text ++ " ", depth, false)
  | _ => (lead ++ t.text, depth, false)

/-- Lays out the tokens behind `text`. -/
def indentedFrom (text : String) (depth : Nat) (fresh : Bool) : List Token → String
  | [] => text
  | t :: ts =>
    let (more, depth, fresh) := indentedToken depth fresh t
    indentedFrom (text ++ more) depth fresh ts

/-- The text with one element or field on each line. -/
def indented (v : Json) : String :=
  indentedFrom "" 0 false v.tokens

/-- The text in one of the two layouts. -/
def render (pretty : Bool) (v : Json) : String :=
  if pretty then v.indented else v.compact

end Json

end Playback
