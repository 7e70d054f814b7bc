import Playback.Number.Power

/-!
# Numerals

A decimal numeral as it is written: a sign, digits, a point among the digits and an exponent.
`Numeral.text` writes one, `Numeral.ofChars?` reads one by a given grammar, and `Numeral.toFloat`
is the nearest binary number, infinite when the value is too large.
-/

namespace Playback

/-- The number `mantissa * 10 ^ (exponent - places)` together with the way it is written. -/
structure Numeral where
  /-- A minus sign stands in front. -/
  negative : Bool
  /-- All the digits, read as one whole number. -/
  mantissa : Nat
  /-- How many of the digits stand after the point; there is no point when it is 0. -/
  places : Nat
  /-- The exponent, when one is written. -/
  exponent : Option Int
deriving DecidableEq, Repr, Inhabited

namespace Numeral

/-- A whole number is written with its digits alone. -/
def ofInt (i : Int) : Numeral :=
  ⟨decide (i < 0), i.natAbs, 0, none⟩

/-- The natural number that a numeral of bare digits writes. -/
def natural? (n : Numeral) : Option Nat :=
  if n.negative || n.places != 0 || n.exponent.isSome then none else some n.mantissa

/-! ## Writing -/

/-- The digits of `mantissa`, with leading zeros so that one digit at least precedes the point. -/
def digits (n : Numeral) : List Char :=
  let ds := Nat.toDigits 10 n.mantissa
  List.replicate (n.places + 1 - ds.length) '0' ++ ds

/-- An exponent is marked by `e` and always has a sign. -/
def exponentChars : Option Int → List Char
  | none => []
  | some e => 'e' :: (if e < 0 then '-' else '+') :: Nat.toDigits 10 e.natAbs

/-- The characters of a numeral. -/
def chars (n : Numeral) : List Char :=
  let ds := n.digits
  let whole := ds.take (ds.length - n.places)
  let fraction := if n.places = 0 then [] else '.' :: ds.drop (ds.length - n.places)
  (if n.negative then ['-'] else []) ++ whole ++ fraction ++ exponentChars n.exponent

/-- The text of a numeral. -/
def text (n : Numeral) : String :=
  String.ofList n.chars

/-! ## Reading -/

/-- The parts that the characters of a numeral fall into. -/
structure Parts where
  /-- The sign character. -/
  sign : Option Char
  /-- The digits before the point. -/
  whole : List Char
  /-- The digits after the point, when there is a point. -/
  fraction : Option (List Char)
  /-- The sign and the digits of the exponent, when there is one. -/
  exponent : Option (Option Char × List Char)
deriving DecidableEq, Repr

/-- Splits a leading sign off. -/
def takeSign : List Char → Option Char × List Char
  | '+' :: cs => (some '+', cs)
  | '-' :: cs => (some '-', cs)
  | cs => (none, cs)

/-- Splits a point and the digits behind it off. -/
def takeFraction : List Char → Option (List Char) × List Char
  | '.' :: cs => (some (cs.takeWhile Char.isDigit), cs.dropWhile Char.isDigit)
  | cs => (none, cs)

/-- Reads an exponent, which is all that is left; it has a digit at least. -/
def exponentParts? : List Char → Option (Option (Option Char × List Char))
  | [] => some none
  | c :: cs =>
    if c = 'e' ∨ c = 'E' then
      let (sign, ds) := takeSign cs
      if ds ≠ [] ∧ ds.all Char.isDigit then some (some (sign, ds)) else none
    else none

/-- Splits the characters of a numeral into its parts. -/
def Parts.ofChars? (cs : List Char) : Option Parts := do
  let (sign, cs) := takeSign cs
  let (fraction, rest) := takeFraction (cs.dropWhile Char.isDigit)
  let exponent ← exponentParts? rest
  some ⟨sign, cs.takeWhile Char.isDigit, fraction, exponent⟩

/-- The numeral with the given parts. -/
def Parts.numeral (p : Parts) : Numeral where
  negative := p.sign = some '-'
  mantissa := Nat.ofDigitChars 10 (p.whole ++ p.fraction.getD []) 0
  places := (p.fraction.getD []).length
  exponent := p.exponent.map fun (sign, ds) =>
    let e : Int := Nat.ofDigitChars 10 ds 0
    if sign = some '-' then -e else e

/-- The strict grammar of data formats: no plus sign, no needless leading zero, a digit on both
sides of a point. -/
def Parts.strict (p : Parts) : Bool :=
  p.sign != some '+' && (p.whole == ['0'] || (p.whole != [] && p.whole.head? != some '0'))
    && p.fraction != some []

/-- The lenient grammar of typed text: any sign and one digit at least, on either side of a
point. -/
def Parts.lenient (p : Parts) : Bool :=
  p.whole ++ p.fraction.getD [] != []

/-- Reads a numeral whose parts a grammar accepts. -/
def ofChars? (grammar : Parts → Bool) (cs : List Char) : Option Numeral := do
  let p ← Parts.ofChars? cs
  if grammar p then some p.numeral else none

/-! ## Value -/

/-- Positive or negative, as the sign says. -/
def signed (negative : Bool) (x : Float) : Float :=
  if negative then -x else x

/-- Infinity. -/
def infinity : Float := 1.0 / 0.0

/-- The number that is none. -/
def nan : Float := 0.0 / 0.0

/-- The nearest binary number. Values of at least `10 ^ 400` are infinite and values below
`10 ^ -400` are zero at once, so that no large power is built for a large exponent. -/
def toFloat (n : Numeral) : Float :=
  let scale : Int := n.exponent.getD 0 - n.places
  if n.mantissa = 0 then signed n.negative 0.0
  else if scale > 400 then signed n.negative infinity
  else if scale + (n.mantissa.log2 / 3 + 2 : Nat) < -400 then signed n.negative 0.0
  else signed n.negative (Float.ofScientific n.mantissa (decide (scale < 0)) scale.natAbs)

/-- The number that a text writes: a lenient numeral, or `inf`, `infinity` or `nan` in any case,
each after an optional sign. -/
def floatOfChars? (cs : List Char) : Option Float :=
  match ofChars? Parts.lenient cs with
  | some n => some n.toFloat
  | none =>
    let (sign, word) := takeSign cs
    let word := String.ofList (word.map Char.toLower)
    if word = "inf" ∨ word = "infinity" then some (signed (sign = some '-') infinity)
    else if word = "nan" then some nan
    else none

end Numeral

end Playback
