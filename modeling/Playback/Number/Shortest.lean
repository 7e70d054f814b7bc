import Playback.Number.Binary
import Playback.Number.Numeral

/-!
# Shortest decimal digits

The decimal text of a binary number has the fewest digits that read back as the same number: of
all powers of ten it takes the greatest one with a multiple among the reals that round to the
number, and of two such multiples the nearer. What is left to choose is in a `Style`.
-/

namespace Playback

/-- Which of two equally near decimals is taken. -/
inductive Tie where
  | away
  | even
deriving DecidableEq, Repr

/-- The choices of one way to write numbers. -/
structure Style where
  /-- The decimal taken when two are equally near. -/
  tie : Tie
  /-- Whether a number `d.ddd * 10 ^ e` is written without an exponent. -/
  positional : Int → Bool
  /-- Whether a whole number written without an exponent keeps one zero after the point. -/
  keepsPoint : Bool

namespace Shortest

/-- A magnitude and the interval of reals that round to it, all over one denominator. -/
structure Scaled where
  value : Nat
  low : Nat
  high : Nat
  unit : Nat
  /-- The ends of the interval belong to it. -/
  closed : Bool
deriving DecidableEq, Repr

/-- The magnitude `b` and its interval, measured in units of `10 ^ k`. -/
def scale (b : Binary) (k : Int) : Scaled :=
  let e := b.exponent - 2
  let up := twoTo e.toNat * tenTo (-k).toNat
  let m := 4 * b.significand
  { value := m * up
    low := (m - if b.narrowBelow then 1 else 2) * up
    high := (m + 2) * up
    unit := twoTo (-e).toNat * tenTo k.toNat
    closed := b.significand % 2 = 0 }

/-- `c` units lie in the interval. -/
def Scaled.holds (s : Scaled) (c : Nat) : Bool :=
  if s.closed then decide (s.low ≤ c * s.unit) && decide (c * s.unit ≤ s.high)
  else decide (s.low < c * s.unit) && decide (c * s.unit < s.high)

/-- The count of units nearest to the value, among those in the interval. -/
def Scaled.nearest? (s : Scaled) (tie : Tie) : Option Nat :=
  let c := s.value / s.unit
  match s.holds c, s.holds (c + 1) with
  | true, true =>
    let twice := 2 * s.value
    let middle := (2 * c + 1) * s.unit
    if twice < middle then some c
    else if middle < twice then some (c + 1)
    else match tie with
      | .away => some (c + 1)
      | .even => some (if c % 2 = 0 then c else c + 1)
  | true, false => some c
  | false, true => some (c + 1)
  | false, false => none

/-- Tries the powers of ten downward from `10 ^ k`. -/
def search (b : Binary) (tie : Tie) : Nat → Int → Nat × Int
  | 0, k => ((scale b k).value / (scale b k).unit, k)
  | fuel + 1, k =>
    match (scale b k).nearest? tie with
    | some c => (c, k)
    | none => search b tie fuel (k - 1)

/-- A power of ten that is greater than the magnitude. -/
def startPower (b : Binary) : Int :=
  ((b.significand.log2 : Int) + 1 + b.exponent) * 30103 / 100000 + 2

/-- The shortest digits of a positive magnitude, and the power of ten that they count. Seventeen
digits always suffice, and the search starts at most three powers above the first. -/
def digits (b : Binary) (tie : Tie) : Nat × Int :=
  if b.significand = 0 then (0, 0) else search b tie 21 (startPower b)

end Shortest

/-- Writes `count * 10 ^ power`. -/
def Style.layout (style : Style) (negative : Bool) (count : Nat) (power : Int) : Numeral :=
  let size := (Nat.toDigits 10 count).length
  let e := power + size - 1
  if style.positional e then
    if power < 0 then ⟨negative, count, power.natAbs, none⟩
    else if style.keepsPoint then ⟨negative, count * tenTo (power.natAbs + 1), 1, none⟩
    else ⟨negative, count * tenTo power.natAbs, 0, none⟩
  else ⟨negative, count, size - 1, some e⟩

/-- The numeral for a finite number. -/
def Style.numeral (style : Style) (x : Float) : Numeral :=
  let (count, power) := Shortest.digits (Binary.ofFloat x) style.tie
  style.layout (Binary.isNegative x) count power

end Playback
