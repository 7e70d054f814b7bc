/-!
# Powers

The powers of the two bases that numbers are read and written in.
-/

namespace Playback

/-- Two to the power `n`. -/
def twoTo (n : Nat) : Nat := Nat.pow 2 n

/-- Ten to the power `n`. -/
def tenTo (n : Nat) : Nat := Nat.pow 10 n

end Playback
