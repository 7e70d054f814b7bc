import Playback.Number.Power

/-!
# Binary numbers

A finite `Float` is a whole number times a power of two. All that depends on the exact value of a
`Float` (is it whole, its whole part, its decimal digits) is computed from these two numbers.
-/

namespace Playback

/-- The magnitude `significand * 2 ^ exponent` of a finite `Float`. -/
structure Binary where
  significand : Nat
  exponent : Int
  /-- The next smaller magnitude is half as far away as the next larger one. -/
  narrowBelow : Bool
deriving DecidableEq, Repr

namespace Binary

/-- The largest whole number below which every whole number is a `Float`. -/
def exactLimit : Nat := twoTo 53

/-- The sign bit, which minus zero has too. -/
def isNegative (x : Float) : Bool :=
  decide (x.toBits.toNat ≥ twoTo 63)

/-- Decodes the magnitude of a finite `Float`. -/
def ofFloat (x : Float) : Binary :=
  let bits : Nat := x.toBits.toNat % twoTo 63
  let field : Nat := bits / twoTo 52
  let fraction : Nat := bits % twoTo 52
  if field = 0 then ⟨fraction, -1074, false⟩
  else ⟨twoTo 52 + fraction, (field : Int) - 1075, decide (fraction = 0 ∧ 1 < field)⟩

/-- The whole part of the magnitude. -/
def floor (b : Binary) : Nat :=
  if b.exponent < 0 then b.significand / twoTo b.exponent.natAbs
  else b.significand * twoTo b.exponent.natAbs

/-- The magnitude has no fractional part. -/
def isWhole (b : Binary) : Bool :=
  decide (0 ≤ b.exponent) || b.significand % twoTo b.exponent.natAbs == 0

/-- A whole number with the sign of `x`. -/
def withSign (x : Float) (n : Nat) : Int :=
  if isNegative x then -(n : Int) else n

/-- The value of `x` when it is a whole number of magnitude below `2 ^ 53`. -/
def exactInt? (x : Float) : Option Int :=
  let b := ofFloat x
  if x.isFinite && b.isWhole && decide (b.floor < exactLimit) then some (withSign x b.floor)
  else none

/-- The least whole number of 64 bits. -/
def leastInt : Int := -9223372036854775808

/-- The greatest whole number of 64 bits. -/
def greatestInt : Int := 9223372036854775807

/-- The whole part of `x`, toward zero and limited to whole numbers of 64 bits; 0 when `x` is no
number. -/
def truncate (x : Float) : Int :=
  if x.isNaN then 0
  else if x.isFinite then max leastInt (min greatestInt (withSign x (ofFloat x).floor))
  else if isNegative x then leastInt else greatestInt

end Binary

end Playback
