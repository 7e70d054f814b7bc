/-!
# Clocks

The times of frames. A clock either counts in equal steps or follows the readings of a wall clock
and never goes back.
-/

namespace Playback

/-- A source of times. -/
inductive Clock where
  /-- Reads `next`, and `step` more each time. -/
  | steps (next step : UInt64)
  /-- Reads a wall clock: the reading number `count` is next, and `last` was the time before. -/
  | wall (last : UInt64) (count : Nat) (readings : Nat → UInt64)

namespace Clock

/-- The sum, limited to the greatest time. -/
def saturatingAdd (a b : UInt64) : UInt64 :=
  UInt64.ofNat (min (a.toNat + b.toNat) (UInt64.size - 1))

/-- The time, and the clock for the next time. -/
def now : Clock → UInt64 × Clock
  | steps next step => (next, steps (saturatingAdd next step) step)
  | wall last count readings =>
    let time := max last (readings count)
    (time, wall time (count + 1) readings)

/-- The next `n` times, and the clock behind them. -/
def take (clock : Clock) : Nat → List UInt64 × Clock
  | 0 => ([], clock)
  | n + 1 =>
    let (time, clock) := clock.now
    let (times, clock) := clock.take n
    (time :: times, clock)

end Clock

end Playback
