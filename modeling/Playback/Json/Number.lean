import Playback.Number.Numeral

/-!
# JSON numbers

A number in a document is converted in one pass. Its digits are collected in a word of 64 bits as long
as they fit, and the word is made a `Float`, which is multiplied or divided by a power of ten. Each of
these steps rounds, so that `Numeral.jsonFloat?` may be a neighbour of the nearest number, which
`Numeral.toFloat` is, and a number close to the end of the range is refused when the product is infinite.
-/

namespace Playback

namespace Numeral

/-! ## Significands -/

/-- Takes digits onto a word of 64 bits as long as they fit. What is left begins with the first digit
that does not fit. -/
def takeDigits (word : Nat) : List Char → Nat × List Char
  | [] => (word, [])
  | c :: cs =>
    let next := 10 * word + (c.toNat - '0'.toNat)
    if next < UInt64.size then takeDigits next cs else (word, c :: cs)

/-- The digits of a number that fit a word, and the power of ten that the word counts. Digits behind the
point are tried even where some before it were left out. -/
def significand (n : Numeral) : Nat × Int :=
  let ds := n.digits
  let (word, dropped) := takeDigits 0 (ds.take (ds.length - n.places))
  let fraction := ds.drop (ds.length - n.places)
  let (word, rest) := takeDigits word fraction
  (word, dropped.length - (fraction.length - rest.length : Nat) + n.exponent.getD 0)

/-! ## Powers of ten -/

/-- Ten to the power `k`, rounded. -/
def powerOfTen (k : Nat) : Float :=
  Float.ofScientific 1 false k

/-- The greatest exponent of a finite power of ten. -/
def lastPower : Nat := 308

/-- Divides by the greatest power of ten, as often as said or until nothing is left. -/
def lowered (x : Float) : Nat → Float
  | 0 => x
  | k + 1 => if x == 0.0 then x else lowered (x / powerOfTen lastPower) k

/-- Multiplies by a power of ten, or divides in steps. An infinite product is refused. -/
def scaled? (x : Float) (power : Int) : Option Float :=
  if power < 0 then
    let steps := (power.natAbs - 1) / lastPower
    some (lowered x steps / powerOfTen (power.natAbs - lastPower * steps))
  else if power.natAbs ≤ lastPower then
    let y := x * powerOfTen power.natAbs
    if y.isFinite then some y else none
  else if x == 0.0 then some x
  else none

/-! ## Values -/

/-- The value of a number in a document, if it is not refused. -/
def jsonFloat? (n : Numeral) : Option Float :=
  let (word, power) := n.significand
  (scaled? word.toUInt64.toFloat power).map (signed n.negative)

/-- The number is not refused. -/
def isInRange (n : Numeral) : Bool :=
  n.jsonFloat?.isSome

/-- The value of a number that is not refused. -/
def jsonFloat (n : Numeral) : Float :=
  n.jsonFloat?.getD infinity

end Numeral

end Playback
