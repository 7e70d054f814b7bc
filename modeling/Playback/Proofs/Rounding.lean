import Playback.Proofs.Numerals
import Playback.Value.Basic
import Mathlib.Order.Monotone.Basic
import Mathlib.Tactic.Ring

/-!
# Rounding

The magnitudes of finite numbers, in ascending order, are numbered by their bits. A decimal numeral
rounds to the magnitude in whose interval it lies, and the intervals of neighbours meet in one point,
which belongs to one of them only. So a decimal rounds to one magnitude at most. The decimal that a
number is shown by rounds to its magnitude, whether its digits are exact or found by the search for the
shortest ones, which always ends before its fuel does.

Main statement: two finite numbers that are shown alike are the same, but for the sign of zero
(`numberText_injective`).
-/

namespace Playback

lemma twoTo_add (m n : Nat) : twoTo (m + n) = twoTo m * twoTo n :=
  Nat.pow_add 2 m n

lemma twoTo_succ (n : Nat) : twoTo (n + 1) = 2 * twoTo n :=
  Nat.pow_succ'

lemma twoTo_pos (n : Nat) : 0 < twoTo n :=
  Nat.pow_pos (by decide)

lemma twoTo_le_twoTo {m n : Nat} (h : m ≤ n) : twoTo m ≤ twoTo n :=
  Nat.pow_le_pow_right (by decide) h

lemma twoTo_lt_twoTo {m n : Nat} (h : m < n) : twoTo m < twoTo n :=
  Nat.pow_lt_pow_right (by decide) h

lemma tenTo_pos (n : Nat) : 0 < tenTo n :=
  Nat.pow_pos (by decide)

lemma twoTo_52 : twoTo 52 = 4503599627370496 := rfl

namespace Binary

/-! ## Ranks -/

/-- The number of magnitudes that are smaller than the one of `x`. -/
def rank (x : Float) : Nat :=
  x.toBits.toNat % twoTo 63

/-- The magnitude with `n` smaller ones. -/
def ofRank (n : Nat) : Binary :=
  if n / twoTo 52 = 0 then ⟨n % twoTo 52, -1074, false⟩
  else ⟨twoTo 52 + n % twoTo 52, (n / twoTo 52 : Nat) - 1075,
    decide (n % twoTo 52 = 0 ∧ 1 < n / twoTo 52)⟩

lemma ofFloat_eq_ofRank (x : Float) : ofFloat x = ofRank (rank x) := rfl

/-- How often the least distance between magnitudes is doubled at the rank `n`. -/
def doublings (n : Nat) : Nat :=
  n / twoTo 52 - 1

lemma exponent_ofRank (n : Nat) : (ofRank n).exponent = (doublings n : Int) - 1074 := by
  rw [ofRank, doublings, twoTo_52]
  split <;> simp only <;> omega

lemma significand_lt (n : Nat) : (ofRank n).significand < twoTo 53 := by
  have := Nat.mod_lt n (twoTo_pos 52)
  rw [ofRank, show twoTo 53 = 2 * twoTo 52 from twoTo_succ 52]
  split <;> simp only <;> omega

lemma significand_mod_two (n : Nat) : (ofRank n).significand % 2 = n % 2 := by
  rw [ofRank, twoTo_52]
  split <;> simp only <;> omega

lemma rank_eq_zero {n : Nat} (h : (ofRank n).significand = 0) : n = 0 := by
  rw [ofRank, twoTo_52] at h
  split at h <;> simp only at h <;> omega

lemma toBits_injective {x y : Float} (h : x.toBits = y.toBits) : x = y := by
  obtain ⟨⟨bits, valid⟩⟩ := x
  obtain ⟨⟨bits', valid'⟩⟩ := y
  cases h
  rfl

/-- The sign and the rank of a number are all that there is of it. -/
lemma eq_of_rank {x y : Float} (hrank : rank x = rank y) (hsign : isNegative x = isNegative y) :
    x = y := by
  have hx := x.toBits.toNat_lt
  have hy := y.toBits.toNat_lt
  have h63 : twoTo 63 = 9223372036854775808 := rfl
  simp only [rank, isNegative, h63, decide_eq_decide] at hrank hsign
  have bits : x.toBits = y.toBits := by
    apply UInt64.toNat_inj.1
    omega
  exact toBits_injective bits

/-- A negative number of rank zero is minus zero. -/
lemma eq_negZero {x : Float} (hrank : rank x = 0) (hsign : isNegative x = true) : x = -0.0 := by
  have hrank' : rank (-0.0) = 0 := by decide
  have hsign' : isNegative (-0.0) = true := by decide
  exact eq_of_rank (hrank.trans hrank'.symm) (hsign.trans hsign'.symm)

/-- The exponent field of a finite number is not the greatest one. -/
lemma doublings_lt {x : Float} (h : x.isFinite = true) : doublings (rank x) < 2046 := by
  open Float.Model in
  have field : @UnpackedFloat.unpackExponent .binary64 x.toModel.toBits.toBitVec ≠ -1#_ := by
    intro heq
    have finite : (UnpackedFloat.unpack .binary64 x.toModel.toBits.toBitVec).isFinite = true := h
    delta UnpackedFloat.unpack at finite
    rw [if_pos heq] at finite
    split at finite <;> cases finite
  have exponent : x.toModel.toBits.toNat >>> 52 % 2 ^ 11 ≠ 2047 :=
    fun heq => field (BitVec.eq_of_toNat_eq heq)
  have hlt := x.toBits.toNat_lt
  have hbits : x.toModel.toBits = x.toBits := rfl
  have h63 : twoTo 63 = 9223372036854775808 := rfl
  rw [hbits, Nat.shiftRight_eq_div_pow] at exponent
  rw [doublings, rank, h63, twoTo_52]
  omega

/-! ## Intervals -/

/-- The lower end of the interval of the magnitude, as a multiple of `2 ^ -1076`. -/
def bottom (n : Nat) : Nat :=
  (4 * (ofRank n).significand - if (ofRank n).narrowBelow then 1 else 2) * twoTo (doublings n)

/-- The upper end of the interval. -/
def top (n : Nat) : Nat :=
  (4 * (ofRank n).significand + 2) * twoTo (doublings n)

section

variable {field fraction : Nat}

lemma rank_div (small : fraction < twoTo 52) :
    (twoTo 52 * field + fraction) / twoTo 52 = field := by
  rw [Nat.mul_add_div (twoTo_pos 52), Nat.div_eq_of_lt small, Nat.add_zero]

lemma rank_mod (small : fraction < twoTo 52) :
    (twoTo 52 * field + fraction) % twoTo 52 = fraction := by
  rw [Nat.mul_add_mod, Nat.mod_eq_of_lt small]

lemma top_zero (small : fraction < twoTo 52) :
    top (twoTo 52 * 0 + fraction) = 4 * fraction + 2 := by
  rw [top, ofRank, doublings, rank_div small, rank_mod small, if_pos rfl]
  exact Nat.mul_one _

lemma top_succ (small : fraction < twoTo 52) : top (twoTo 52 * (field + 1) + fraction) =
    (4 * (twoTo 52 + fraction) + 2) * twoTo field := by
  rw [top, ofRank, doublings, rank_div small, rank_mod small, if_neg (Nat.succ_ne_zero _),
    Nat.add_sub_cancel]

lemma bottom_zero (small : fraction < twoTo 52) :
    bottom (twoTo 52 * 0 + fraction) = 4 * fraction - 2 := by
  rw [bottom, ofRank, doublings, rank_div small, rank_mod small, if_pos rfl]
  exact Nat.mul_one _

lemma bottom_succ_zero : bottom (twoTo 52 * (field + 1) + 0) =
    (4 * twoTo 52 - if 0 < field then 1 else 2) * twoTo field := by
  rw [bottom, ofRank, doublings, rank_div (twoTo_pos 52), rank_mod (twoTo_pos 52),
    if_neg (Nat.succ_ne_zero _), Nat.add_sub_cancel]
  simp

lemma bottom_succ_pos (small : fraction + 1 < twoTo 52) :
    bottom (twoTo 52 * (field + 1) + (fraction + 1)) =
      (4 * (twoTo 52 + fraction) + 2) * twoTo field := by
  rw [bottom, ofRank, doublings, rank_div small, rank_mod small, if_neg (Nat.succ_ne_zero _),
    Nat.add_sub_cancel]
  simp
  omega

end

/-- The interval of a magnitude begins where the one below it ends. -/
lemma bottom_succ (n : Nat) : bottom (n + 1) = top n := by
  obtain ⟨field, fraction, small, rfl⟩ : ∃ field fraction, fraction < twoTo 52 ∧
      n = twoTo 52 * field + fraction :=
    ⟨n / twoTo 52, n % twoTo 52, Nat.mod_lt n (twoTo_pos 52), (Nat.div_add_mod n _).symm⟩
  by_cases last : fraction + 1 = twoTo 52
  · -- the next magnitude is the first one with a greater exponent field
    rw [Nat.add_assoc, last, ← Nat.mul_succ, ← Nat.add_zero (twoTo 52 * _), bottom_succ_zero]
    cases field with
    | zero =>
      rw [top_zero small, if_neg (Nat.lt_irrefl 0), ← last, show twoTo 0 = 1 from rfl]
      omega
    | succ field =>
      rw [top_succ small, if_pos (Nat.succ_pos _), twoTo_succ field, ← Nat.mul_assoc, ← last]
      congr 1
      omega
  · have small' : fraction + 1 < twoTo 52 := by omega
    rw [Nat.add_assoc]
    cases field with
    | zero =>
      rw [top_zero small, bottom_zero small']
      omega
    | succ field => rw [top_succ small, bottom_succ_pos small']

lemma bottom_lt_top (n : Nat) : bottom n < top n := by
  rw [bottom, top]
  refine Nat.mul_lt_mul_of_pos_right ?_ (twoTo_pos _)
  omega

lemma top_strictMono : StrictMono top :=
  strictMono_nat_of_lt_succ fun n => by
    rw [← bottom_succ]
    exact bottom_lt_top (n + 1)

/-- The decimal `mantissa / 10 ^ places` rounds to the magnitude: it lies in its interval, whose ends
belong to it when its significand is even. -/
def Rounds (n mantissa places : Nat) : Prop :=
  if n % 2 = 0 then
    bottom n * tenTo places ≤ mantissa * twoTo 1076 ∧ mantissa * twoTo 1076 ≤ top n * tenTo places
  else
    bottom n * tenTo places < mantissa * twoTo 1076 ∧ mantissa * twoTo 1076 < top n * tenTo places

namespace Rounds

variable {n m mantissa places : Nat}

lemma le (h : Rounds n mantissa places) : bottom n * tenTo places ≤ mantissa * twoTo 1076 ∧
    mantissa * twoTo 1076 ≤ top n * tenTo places := by
  unfold Rounds at h
  split at h
  · exact h
  · exact ⟨Nat.le_of_lt h.1, Nat.le_of_lt h.2⟩

lemma not_lt (h : Rounds n mantissa places) (h' : Rounds m mantissa places) : ¬ n < m := by
  intro lt
  obtain ⟨k, rfl⟩ : ∃ k, m = k + 1 := ⟨m - 1, by omega⟩
  have mono : top n ≤ top k := top_strictMono.monotone (Nat.le_of_lt_succ lt)
  have upper := h.le.2
  have lower := h'.le.1
  rw [bottom_succ] at lower
  -- the decimal is the point where the two intervals meet
  have meets : top n = top k := by
    refine Nat.le_antisymm mono ?_
    exact Nat.le_of_mul_le_mul_right (lower.trans upper) (tenTo_pos places)
  have neighbours : n = k := top_strictMono.injective meets
  subst neighbours
  unfold Rounds at h h'
  rw [bottom_succ] at h'
  -- one of two neighbours has an odd significand, and the point does not belong to it
  by_cases even : n % 2 = 0
  · rw [if_neg (by omega)] at h'
    exact absurd upper (Nat.not_le.2 h'.1)
  · rw [if_neg even] at h
    exact absurd lower (Nat.not_le.2 h.2)

/-- A decimal rounds to one magnitude at most. -/
lemma unique (h : Rounds n mantissa places) (h' : Rounds m mantissa places) : n = m :=
  Nat.le_antisymm (Nat.not_lt.1 (h'.not_lt h)) (Nat.not_lt.1 (h.not_lt h'))

end Rounds

/-- The decimal that is the magnitude itself rounds to it. -/
lemma rounds_self {n mantissa places : Nat}
    (h : 4 * (ofRank n).significand * twoTo (doublings n) * tenTo places = mantissa * twoTo 1076) :
    Rounds n mantissa places := by
  have lower : bottom n ≤ 4 * (ofRank n).significand * twoTo (doublings n) :=
    Nat.mul_le_mul_right _ (Nat.sub_le _ _)
  have upper : 4 * (ofRank n).significand * twoTo (doublings n) < top n :=
    Nat.mul_lt_mul_of_pos_right (by omega) (twoTo_pos _)
  unfold Rounds
  rw [← h]
  split
  · exact ⟨Nat.mul_le_mul_right _ lower, Nat.mul_le_mul_right _ (Nat.le_of_lt upper)⟩
  · next odd =>
    -- an odd significand is not zero, so that the magnitude is not the end of its interval
    have lower' : bottom n < 4 * (ofRank n).significand * twoTo (doublings n) := by
      have := significand_mod_two n
      refine Nat.mul_lt_mul_of_pos_right ?_ (twoTo_pos _)
      split <;> omega
    exact ⟨Nat.mul_lt_mul_of_pos_right lower' (tenTo_pos _),
      Nat.mul_lt_mul_of_pos_right upper (tenTo_pos _)⟩

end Binary

/-! ## Shortest digits -/

namespace Shortest

open Binary

lemma Scaled.holds_of_nearest? {s : Scaled} {tie : Tie} {c : Nat} (h : s.nearest? tie = some c) :
    s.holds c = true := by
  unfold nearest? at h
  dsimp only at h
  split at h
  · next hc hc' =>
    -- both neighbours are in the interval, and one of them is taken
    split at h
    · cases h
      exact hc
    split at h
    · cases h
      exact hc'
    cases tie with
    | away =>
      cases h
      exact hc'
    | even =>
      cases h
      split
      · exact hc
      · exact hc'
  · next hc _ =>
    cases h
    exact hc
  · next _ hc' =>
    cases h
    exact hc'
  · cases h

/-- A unit that is shorter than the upper part of the interval has a multiple there. -/
lemma Scaled.nearest?_isSome {s : Scaled} (tie : Tie) (below : s.low ≤ s.value)
    (short : s.value + s.unit < s.high) (hunit : 0 < s.unit) : (s.nearest? tie).isSome = true := by
  have greater : s.value < (s.value / s.unit + 1) * s.unit := by
    rw [Nat.mul_comm]
    exact Nat.lt_mul_div_succ s.value hunit
  have less : (s.value / s.unit + 1) * s.unit < s.high := by
    have := Nat.div_mul_le_self s.value s.unit
    rw [Nat.succ_mul]
    omega
  have next : s.holds (s.value / s.unit + 1) = true := by
    unfold holds
    split <;> simp only [Bool.and_eq_true, decide_eq_true_eq] <;> omega
  unfold nearest?
  dsimp only
  rw [next]
  cases s.holds (s.value / s.unit) with
  | false => rfl
  | true =>
    dsimp only
    split
    · rfl
    · split
      · rfl
      · cases tie <;> rfl

/-- The search finds digits if there are some at a power that it comes to, and it does not go below
that power. -/
lemma holds_search {b : Binary} {tie : Tie} : ∀ {fuel : Nat} {k : Int} {tries : Nat}, tries < fuel →
    ((scale b (k - tries)).nearest? tie).isSome = true →
    (scale b (search b tie fuel k).2).holds (search b tie fuel k).1 = true ∧
      k - tries ≤ (search b tie fuel k).2
  | fuel + 1, k, tries, lt, found => by
    rw [search]
    cases here : (scale b k).nearest? tie with
    | some c => exact ⟨Scaled.holds_of_nearest? here, by dsimp only; omega⟩
    | none =>
      cases tries with
      | zero =>
        rw [Int.natCast_zero, Int.sub_zero, here] at found
        cases found
      | succ tries =>
        have next : k - (tries + 1 : Nat) = k - 1 - tries := by omega
        rw [next] at found ⊢
        exact holds_search (Nat.lt_of_succ_lt_succ lt) found

/-- A power of ten that is less than half of the distance between two magnitudes. -/
def finePower (doublings : Nat) : Int :=
  ((doublings : Int) - 1021) * 30103 / 100000 - 18

/-- It is not much less: the interval of a magnitude has fewer such powers than a word of 64 bits
counts. -/
lemma tenTo_finePower_lt : ∀ q : Nat, q < 2046 →
    tenTo (finePower q).toNat * twoTo 1076 < twoTo (q + 1) * tenTo (-finePower q).toNat ∧
      twoTo 55 * twoTo q * tenTo (-finePower q).toNat <
        UInt64.size * (tenTo (finePower q).toNat * twoTo 1076) := by
  -- as a loop over a list, where the kernel computes faster than on the bounded statement
  have all : (List.range 2046).all (fun q => decide
      (tenTo (finePower q).toNat * twoTo 1076 < twoTo (q + 1) * tenTo (-finePower q).toNat ∧
        twoTo 55 * twoTo q * tenTo (-finePower q).toNat <
          UInt64.size * (tenTo (finePower q).toNat * twoTo 1076))) = true := by
    decide +kernel
  intro q h
  exact of_decide_eq_true (List.all_eq_true.1 all q (List.mem_range.2 h))

/-- What is measured in units of a power of ten, in multiples of `2 ^ -1076`. -/
lemma twoTo_doublings (n : Nat) : twoTo ((ofRank n).exponent - 2).toNat * twoTo 1076 =
    twoTo (doublings n) * twoTo (-((ofRank n).exponent - 2)).toNat := by
  rw [← twoTo_add, ← twoTo_add, exponent_ofRank]
  congr 1
  omega

section

variable (n : Nat) (k : Int) (a c : Nat)

/-- The ends of the interval, in units of the power of ten and in the fixed unit. -/
lemma scaled_mul (e : Int) (he : e = (ofRank n).exponent - 2) :
    a * (twoTo e.toNat * tenTo (-k).toNat) * twoTo 1076 =
      a * twoTo (doublings n) * tenTo (-k).toNat * twoTo (-e).toNat := by
  subst he
  calc a * (twoTo ((ofRank n).exponent - 2).toNat * tenTo (-k).toNat) * twoTo 1076
      = a * (twoTo ((ofRank n).exponent - 2).toNat * twoTo 1076) * tenTo (-k).toNat := by ring
    _ = a * twoTo (doublings n) * tenTo (-k).toNat * twoTo (-((ofRank n).exponent - 2)).toNat := by
        rw [twoTo_doublings]
        ring

lemma unit_mul (e : Int) : c * (twoTo (-e).toNat * tenTo k.toNat) * twoTo 1076 =
    c * tenTo k.toNat * twoTo 1076 * twoTo (-e).toNat := by
  ring

lemma scaled_le_iff :
    a * (twoTo ((ofRank n).exponent - 2).toNat * tenTo (-k).toNat) ≤
        c * (twoTo (-((ofRank n).exponent - 2)).toNat * tenTo k.toNat) ↔
      a * twoTo (doublings n) * tenTo (-k).toNat ≤ c * tenTo k.toNat * twoTo 1076 := by
  rw [← Nat.mul_le_mul_right_iff (twoTo_pos 1076), scaled_mul n k a _ rfl, unit_mul,
    Nat.mul_le_mul_right_iff (twoTo_pos _)]

lemma le_scaled_iff :
    c * (twoTo (-((ofRank n).exponent - 2)).toNat * tenTo k.toNat) ≤
        a * (twoTo ((ofRank n).exponent - 2).toNat * tenTo (-k).toNat) ↔
      c * tenTo k.toNat * twoTo 1076 ≤ a * twoTo (doublings n) * tenTo (-k).toNat := by
  rw [← Nat.mul_le_mul_right_iff (twoTo_pos 1076), scaled_mul n k a _ rfl, unit_mul,
    Nat.mul_le_mul_right_iff (twoTo_pos _)]

end

/-- What the search looks for is a decimal that rounds to the magnitude. -/
lemma rounds_of_holds {n c : Nat} {k : Int} (h : (scale (ofRank n) k).holds c = true) :
    Rounds n (c * tenTo k.toNat) (-k).toNat := by
  unfold Rounds bottom top
  unfold Scaled.holds scale at h
  simp only [decide_eq_true_eq, significand_mod_two] at h
  split at h
  · next even =>
    rw [if_pos even]
    simp only [Bool.and_eq_true, decide_eq_true_eq, scaled_le_iff, le_scaled_iff] at h
    exact h
  · next odd =>
    rw [if_neg odd]
    simp only [Bool.and_eq_true, decide_eq_true_eq, ← Nat.not_le, scaled_le_iff, le_scaled_iff] at h ⊢
    exact h

/-- There are digits at the fine power. -/
lemma nearest?_finePower {n : Nat} (h : doublings n < 2046) (tie : Tie) :
    ((scale (ofRank n) (finePower (doublings n))).nearest? tie).isSome = true := by
  have short : 1 * (twoTo (-((ofRank n).exponent - 2)).toNat * tenTo (finePower (doublings n)).toNat) <
      2 * (twoTo ((ofRank n).exponent - 2).toNat * tenTo (-finePower (doublings n)).toNat) := by
    rw [← Nat.not_le, scaled_le_iff, Nat.not_le, Nat.one_mul, ← twoTo_succ]
    exact (tenTo_finePower_lt (doublings n) h).1
  refine Scaled.nearest?_isSome tie ?_ ?_ (Nat.mul_pos (twoTo_pos _) (tenTo_pos _))
  · exact Nat.mul_le_mul_right _ (Nat.sub_le _ _)
  · rw [Nat.one_mul] at short
    simp only [scale, Nat.add_mul]
    omega

/-- The search comes to the fine power. -/
lemma exists_tries (n : Nat) : ∃ tries < 21, startPower (ofRank n) - (tries : Nat) =
    finePower (doublings n) := by
  have log : (ofRank n).significand.log2 ≤ 52 := by
    by_cases zero : (ofRank n).significand = 0
    · rw [zero]
      decide
    · exact Nat.le_of_lt_succ ((Nat.log2_lt zero).2 (significand_lt n))
  refine ⟨(startPower (ofRank n) - finePower (doublings n)).toNat, ?_, ?_⟩
  · rw [startPower, finePower, exponent_ofRank]
    omega
  · rw [startPower, finePower, exponent_ofRank]
    omega

/-- The shortest digits are zero, or found at the fine power or above it. -/
lemma digits_cases {n : Nat} (h : doublings n < 2046) (tie : Tie) :
    (ofRank n).significand = 0 ∧ digits (ofRank n) tie = (0, 0) ∨
      (scale (ofRank n) (digits (ofRank n) tie).2).holds (digits (ofRank n) tie).1 = true ∧
        finePower (doublings n) ≤ (digits (ofRank n) tie).2 := by
  rw [digits]
  split
  · next zero => exact .inl ⟨zero, rfl⟩
  · obtain ⟨tries, lt, htries⟩ := exists_tries n
    have found := nearest?_finePower h tie
    rw [← htries] at found ⊢
    exact .inr (holds_search lt found)

/-- The shortest digits are those of a decimal that rounds to the magnitude. -/
lemma rounds_digits {n : Nat} (h : doublings n < 2046) (tie : Tie) :
    Rounds n ((digits (ofRank n) tie).1 * tenTo (digits (ofRank n) tie).2.toNat)
      (-(digits (ofRank n) tie).2).toNat := by
  rcases digits_cases h tie with ⟨zero, found⟩ | ⟨holds, -⟩
  · refine rounds_self ?_
    rw [zero, found]
    simp
  · exact rounds_of_holds holds

lemma tenTo_le_tenTo {m n : Nat} (h : m ≤ n) : tenTo m ≤ tenTo n :=
  Nat.pow_le_pow_right (by decide) h

/-- A word of 64 bits holds the shortest digits. -/
lemma digits_lt {n : Nat} (h : doublings n < 2046) (tie : Tie) :
    (digits (ofRank n) tie).1 < UInt64.size := by
  rcases digits_cases h tie with ⟨-, found⟩ | ⟨holds, fine⟩
  · rw [found]
    decide
  have double : twoTo 55 = 4 * twoTo 53 := rfl
  have short := significand_lt n
  have below := (tenTo_finePower_lt (doublings n) h).2
  have upper := (rounds_of_holds holds).le.2
  generalize digits (ofRank n) tie = found at fine upper ⊢
  generalize finePower (doublings n) = fp at fine below
  refine Nat.lt_of_mul_lt_mul_right (a := tenTo fp.toNat * twoTo 1076) ?_
  calc found.1 * (tenTo fp.toNat * twoTo 1076) ≤ found.1 * (tenTo found.2.toNat * twoTo 1076) :=
        Nat.mul_le_mul_left _ (Nat.mul_le_mul_right _ (tenTo_le_tenTo (by omega)))
    _ = found.1 * tenTo found.2.toNat * twoTo 1076 := (Nat.mul_assoc ..).symm
    _ ≤ top n * tenTo (-found.2).toNat := upper
    _ ≤ twoTo 55 * twoTo (doublings n) * tenTo (-fp).toNat :=
        Nat.mul_le_mul (Nat.mul_le_mul_right _ (by omega)) (tenTo_le_tenTo (by omega))
    _ < UInt64.size * (tenTo fp.toNat * twoTo 1076) := below

end Shortest

/-! ## Shown numbers -/

/-- The numeral that a finite number is shown by. -/
def shown (x : Float) : Numeral :=
  match Binary.exactInt? x with
  | some i => .ofInt i
  | none => shownStyle.numeral x

lemma numberText_eq_shown {x : Float} (h : x.isFinite = true) : numberText x = (shown x).text := by
  have notNaN : x.isNaN = false := by
    have finite : x.toModel.unpack.isFinite = true := h
    show x.toModel.unpack.isNaN = false
    generalize x.toModel.unpack = u at finite
    cases u with
    | notANumber => cases finite
    | _ => rfl
  rw [numberText, shown]
  cases Binary.exactInt? x with
  | some i => rfl
  | none => simp only [plainText, h, notNaN, Bool.false_eq_true, if_false, if_true]

/-- Without an exponent, the power of the digits is in the digits or in the place of the point. -/
lemma shownStyle_layout (negative : Bool) (count : Nat) (power : Int) :
    shownStyle.layout negative count power =
      ⟨negative, count * tenTo power.toNat, (-power).toNat, none⟩ := by
  rw [Style.layout]
  by_cases h : power < 0
  · have hpower : power.toNat = 0 := by omega
    have hplaces : (-power).toNat = power.natAbs := by omega
    rw [hpower, hplaces]
    simp [shownStyle, h, tenTo]
  · have hpower : power.toNat = power.natAbs := by omega
    have hplaces : (-power).toNat = 0 := by omega
    rw [hpower, hplaces]
    simp [shownStyle, h]

namespace Binary

variable {x : Float}

lemma exactInt?_eq_some {i : Int} (h : exactInt? x = some i) :
    (ofFloat x).isWhole = true ∧ i = withSign x (ofFloat x).floor := by
  unfold exactInt? at h
  dsimp only at h
  split at h
  · next whole =>
    simp only [Bool.and_eq_true] at whole
    exact ⟨whole.1.2, (Option.some.inj h).symm⟩
  · cases h

lemma natAbs_withSign (x : Float) (n : Nat) : (withSign x n).natAbs = n := by
  unfold withSign
  split <;> omega

/-- A magnitude without a fractional part is its own whole part. -/
lemma floor_eq {n : Nat} (whole : (ofRank n).isWhole = true) :
    4 * (ofRank n).significand * twoTo (doublings n) = (ofRank n).floor * twoTo 1076 := by
  have hexponent := exponent_ofRank n
  rw [isWhole, Bool.or_eq_true, decide_eq_true_eq, beq_iff_eq] at whole
  rw [floor]
  split
  · next negative =>
    -- the significand is a multiple of the unit, in which the whole part is counted
    have divides : (ofRank n).significand % twoTo (ofRank n).exponent.natAbs = 0 := by
      rcases whole with whole | whole
      · omega
      · exact whole
    have hdiv := Nat.div_mul_cancel (Nat.dvd_of_mod_eq_zero divides)
    have powers : twoTo 1076 =
        4 * (twoTo (ofRank n).exponent.natAbs * twoTo (doublings n)) := by
      rw [← twoTo_add, show 1076 = 2 + ((ofRank n).exponent.natAbs + doublings n) by omega, twoTo_add]
      rfl
    calc 4 * (ofRank n).significand * twoTo (doublings n)
        = 4 * ((ofRank n).significand / twoTo (ofRank n).exponent.natAbs *
            twoTo (ofRank n).exponent.natAbs) * twoTo (doublings n) := by rw [hdiv]
      _ = (ofRank n).significand / twoTo (ofRank n).exponent.natAbs * twoTo 1076 := by
          rw [powers]
          ring
  · have powers : 4 * twoTo (doublings n) = twoTo (ofRank n).exponent.natAbs * twoTo 1076 := by
      rw [← twoTo_add, show (ofRank n).exponent.natAbs + 1076 = 2 + doublings n by omega, twoTo_add]
      rfl
    rw [Nat.mul_assoc _ (twoTo _), ← powers]
    ring

lemma rounds_shown (h : x.isFinite = true) :
    Rounds (rank x) (shown x).mantissa (shown x).places := by
  rw [shown]
  cases exact : exactInt? x with
  | some i =>
    obtain ⟨whole, rfl⟩ := exactInt?_eq_some exact
    refine rounds_self ?_
    rw [ofFloat_eq_ofRank] at whole
    show _ * 1 = (withSign x (ofFloat x).floor).natAbs * _
    rw [Nat.mul_one, natAbs_withSign, floor_eq whole]
    rfl
  | none =>
    dsimp only
    rw [Style.numeral]
    dsimp only
    rw [shownStyle_layout]
    exact Shortest.rounds_digits (doublings_lt h) shownStyle.tie

lemma shown_exponent (x : Float) : (shown x).exponent = none := by
  rw [shown]
  cases exactInt? x with
  | some i => rfl
  | none =>
    dsimp only
    rw [Style.numeral]
    dsimp only
    rw [shownStyle_layout]

/-- The sign is shown, except that of zero. -/
lemma shown_negative (h0 : x ≠ -0.0) : (shown x).negative = isNegative x := by
  rw [shown]
  cases exact : exactInt? x with
  | some i =>
    obtain ⟨whole, rfl⟩ := exactInt?_eq_some exact
    show decide (withSign x (ofFloat x).floor < 0) = isNegative x
    cases sign : isNegative x with
    | false =>
      rw [withSign, sign, if_neg (by decide), decide_eq_false_iff_not]
      omega
    | true =>
      rw [withSign, sign, if_pos rfl, decide_eq_true_eq]
      -- a magnitude whose whole part is zero is zero
      have positive : (ofFloat x).floor ≠ 0 := by
        intro zero
        rw [ofFloat_eq_ofRank] at whole zero
        have magnitude := floor_eq whole
        rw [zero, Nat.zero_mul, Nat.mul_eq_zero] at magnitude
        have significand : (ofRank (rank x)).significand = 0 := by
          have := twoTo_pos (doublings (rank x))
          omega
        exact h0 (eq_negZero (rank_eq_zero significand) sign)
      omega
  | none =>
    dsimp only
    rw [Style.numeral]
    dsimp only
    rw [shownStyle_layout]

end Binary

/-- Two finite numbers that are shown alike are the same, but for the sign of zero. -/
theorem numberText_injective {x y : Float} (hx : x.isFinite = true) (hy : y.isFinite = true)
    (hx0 : x ≠ -0.0) (hy0 : y ≠ -0.0) (h : numberText x = numberText y) : x = y := by
  rw [numberText_eq_shown hx, numberText_eq_shown hy] at h
  have same : shown x = shown y := Numeral.chars_injective (String.ofList_injective h)
  have hrank : Binary.rank x = Binary.rank y := by
    have rounds := Binary.rounds_shown hx
    rw [same] at rounds
    exact rounds.unique (Binary.rounds_shown hy)
  have hsign : Binary.isNegative x = Binary.isNegative y := by
    rw [← Binary.shown_negative hx0, ← Binary.shown_negative hy0, same]
  exact Binary.eq_of_rank hrank hsign

end Playback
