import Playback.Proofs.Magnitudes

/-!
# Whole numbers

A whole number of a magnitude of at most `2 ^ 53` has a place for each of its binary digits in a number,
so it is never rounded. `Magnitude.whole` is what such a number is when it is read: its digits, moved to
the 53 places, and their exponent.

Main statements: one more than a whole number is computed as it is (`Binary.ofInt_add_one`), and whole
numbers are compared as they are (`Binary.ofInt_le_ofInt_iff`).
-/

namespace Playback

namespace Magnitude

open Float.Model (Format UnpackedFloat totalExponent)
open Float.Model.UnpackedFloat

/-! ## Digits -/

lemma log2_mul_twoTo {n : Nat} (some : n ≠ 0) (k : Nat) : (n * twoTo k).log2 = n.log2 + k := by
  refine (Nat.log2_eq_iff (Nat.mul_ne_zero some (twoTo_pos k).ne')).2 ⟨?_, ?_⟩
  · exact (twoTo_add n.log2 k).le.trans (Nat.mul_le_mul_right _ (twoTo_log2_le some))
  · refine (Nat.mul_lt_mul_of_pos_right (lt_twoTo_log2 n) (twoTo_pos k)).trans_eq ?_
    rw [← twoTo_add, Nat.add_right_comm]
    rfl

/-- The digits of a natural number that is not zero, moved to the 53 places. -/
def places (n : Nat) : Nat :=
  n * twoTo 52 / twoTo n.log2

section

variable {n : Nat}

lemma log2_le_of_le (h : n ≤ twoTo 53) : n.log2 ≤ 53 :=
  Nat.le_of_lt_succ (log2_lt_of_lt_twoTo (by decide) (h.trans_lt (by decide)))

/-- Where there is a place for each digit, none is lost. -/
lemma places_mul (some : n ≠ 0) (h : n ≤ twoTo 53) : places n * twoTo n.log2 = n * twoTo 52 := by
  refine Nat.div_mul_cancel ?_
  rcases Nat.lt_or_eq_of_le (log2_le_of_le h) with short | long
  · refine Dvd.dvd.mul_left ⟨twoTo (52 - n.log2), ?_⟩ n
    rw [← twoTo_add, Nat.add_sub_cancel' (Nat.le_of_lt_succ short)]
  · have least : twoTo 53 ≤ n := by
      rw [← long]
      exact twoTo_log2_le some
    rw [long, Nat.le_antisymm h least]
    exact dvd_mul_right ..

lemma le_places (some : n ≠ 0) : twoTo 52 ≤ places n := by
  refine (Nat.le_div_iff_mul_le (twoTo_pos _)).2 ?_
  rw [Nat.mul_comm]
  exact Nat.mul_le_mul_right _ (twoTo_log2_le some)

lemma places_lt : places n < twoTo 53 := by
  refine Nat.div_lt_of_lt_mul ?_
  calc n * twoTo 52 < twoTo (n.log2 + 1) * twoTo 52 :=
        Nat.mul_lt_mul_of_pos_right (lt_twoTo_log2 n) (twoTo_pos _)
    _ = twoTo n.log2 * twoTo 53 := by rw [← twoTo_add, ← twoTo_add, Nat.add_assoc]

lemma places_pos (some : n ≠ 0) : 0 < places n :=
  (twoTo_pos 52).trans_le (le_places some)

end

/-- A natural number with a sign, as it is read. -/
def natural (s : Sign) (n : Nat) : UnpackedFloat :=
  if h : n = 0 then .zero s else .finite s (places n) (n.log2 - 52) (places_pos h)

/-- A whole number, as it is read. -/
def whole (i : Int) : UnpackedFloat :=
  natural (if i < 0 then .negative else .positive) i.natAbs

/-! ## Writing and reading -/

lemma unpackSign_packComponents {spec : Format} {s : Sign} {e : BitVec spec.exponentBits}
    {m : BitVec spec.mantissaBitsWithoutImplicit} :
    unpackSign (packComponents spec s e m) = s.toBitVec := by
  refine BitVec.eq_of_getLsbD_eq fun i hi => ?_
  have first : i = 0 := Nat.lt_one_iff.1 hi
  subst first
  unfold unpackSign packComponents
  simp [BitVec.getLsbD_append, BitVec.getElem_append]

lemma ofBitVec_toBitVec (s : Sign) : Sign.ofBitVec s.toBitVec = s := by
  cases s <;> rfl

lemma toNat_append_one (m : BitVec 52) : (1#1 ++ m).toNat = twoTo 52 + m.toNat := by
  rw [BitVec.toNat_append, ← Nat.shiftLeft_add_eq_or_of_lt m.isLt]
  rfl

/-- Bits whose exponent is neither the least nor the greatest one have a digit in front of the others. -/
lemma unpack_eq_finite {b : BitVec Format.binary64.numBits} (infinite : unpackExponent b ≠ -1#11)
    (subnormal : unpackExponent b ≠ 0#11) (some : 0 < (1#1 ++ unpackMantissa b).toNat) :
    unpack Format.binary64 b = .finite (.ofBitVec (unpackSign b)) (1#1 ++ unpackMantissa b).toNat
      ((unpackExponent b).toNat - (1023 + (52 : Nat))) some := by
  unfold unpack
  dsimp only
  rw [if_neg infinite, if_neg subnormal]
  rfl

/-- A number with a digit in the first of the 53 places is read as it has been written. -/
lemma packed_finite {s : Sign} {m : Nat} {e : Int} {h : 0 < m} (least : twoTo 52 ≤ m)
    (short : m < twoTo 53) (low : -1074 ≤ e) (high : e ≤ 971) :
    packed (.finite s m e h) = .finite s m e h := by
  have double : twoTo 53 = 2 * twoTo 52 := twoTo_succ 52
  have bits : m.log2 + 1 = Format.binary64.mantissaBits := by
    have := log2_lt_of_lt_twoTo (by decide) short
    have := (Nat.le_log2 h.ne').2 least
    show m.log2 + 1 = 53
    omega
  have field : (BitVec.ofNat 11 (e + 1075).toNat).toNat = (e + 1075).toNat := by
    rw [BitVec.toNat_ofNat]
    omega
  have written : pack Format.binary64 (.finite s m e h) = packComponents Format.binary64 s
      (BitVec.ofNat 11 (e + 1075).toNat) (BitVec.ofNat 52 m) := by
    unfold pack
    dsimp only
    rw [bias_eq, if_neg (show ¬ 2048 ≤ (e + 1023 + (52 : Nat)).toNat + 1 by omega), if_pos bits,
      show e + 1023 + (52 : Nat) = e + 1075 by omega]
  have exponent : unpackExponent (pack Format.binary64 (.finite s m e h)) =
      BitVec.ofNat 11 (e + 1075).toNat := by
    rw [written, unpackExponent_packComponents]
  have mantissa : (1#1 ++ unpackMantissa (pack Format.binary64 (.finite s m e h))).toNat = m := by
    have rest : m % twoTo 52 = m - twoTo 52 := by
      rw [Nat.mod_eq_sub_mod least, Nat.mod_eq_of_lt (by omega)]
    rw [written, unpackMantissa_packComponents, toNat_append_one, BitVec.toNat_ofNat]
    show twoTo 52 + m % twoTo 52 = m
    omega
  have infinite : unpackExponent (pack Format.binary64 (.finite s m e h)) ≠ -1#11 := by
    rw [exponent]
    intro eq
    have : (e + 1075).toNat = 2047 := field.symm.trans (congrArg BitVec.toNat eq)
    omega
  have subnormal : unpackExponent (pack Format.binary64 (.finite s m e h)) ≠ 0#11 := by
    rw [exponent]
    intro eq
    have : (e + 1075).toNat = 0 := field.symm.trans (congrArg BitVec.toNat eq)
    omega
  rw [packed, unpack_eq_finite infinite subnormal (mantissa.symm ▸ h), UnpackedFloat.finite.injEq]
  refine ⟨?_, mantissa, ?_⟩
  · rw [written, unpackSign_packComponents, ofBitVec_toBitVec]
  · rw [exponent, field]
    omega

/-! ## Rounding -/

/-- The first shift leaves the digits that are rounded, and the second one takes in a carry. -/
lemma roundWithAccuracy_eq {s : Sign} {m r m' : Nat} {e t e' : Int} {accuracy : Accuracy}
    (level : e + ((target m e - e).toNat : Int) = t)
    (rounds : (shifted m e accuracy).roundedMantissa = r)
    (digits : r / twoTo (target r t - t).toNat = m') (place : t + ((target r t - t).toNat : Int) = e')
    (some : 0 < m') :
    roundWithAccuracy Format.binary64 s m e accuracy = .finite s m' e' some := by
  subst level rounds place
  have mantissa : (shifted (shifted m e accuracy).roundedMantissa (e + (target m e - e).toNat)
      .exact).mantissa = m' := mantissa_shifted.trans digits
  subst mantissa
  exact dif_neg some.ne'

/-- A number with 53 digits and zeros behind them is not rounded. -/
lemma roundWithAccuracy_places {s : Sign} {m k : Nat} {e : Int} (least : twoTo 52 ≤ m)
    (short : m < twoTo 53) (low : -1074 ≤ e + k) :
    roundWithAccuracy Format.binary64 s (m * twoTo k) e .exact =
      .finite s m (e + k) ((twoTo_pos 52).trans_le least) := by
  have some : m ≠ 0 := ((twoTo_pos 52).trans_le least).ne'
  have bits : m.log2 = 52 := (Nat.log2_eq_iff some).2 ⟨least, short⟩
  have first : target (m * twoTo k) e = e + k := by
    rw [target_eq, log2_mul_twoTo some, bits]
    omega
  have second : target m (e + k) = e + k := by
    rw [target_eq, bits]
    omega
  have steps : (target (m * twoTo k) e - e).toNat = k := by omega
  have mantissa : (shifted (m * twoTo k) e .exact).mantissa = m := by
    rw [mantissa_shifted, steps, Nat.mul_div_cancel _ (twoTo_pos k)]
  have round : (shifted (m * twoTo k) e .exact).roundBit = false := by
    rw [shifted, steps]
    cases k with
    | zero => rfl
    | succ k =>
      rw [roundBit_repeat, mantissa_ofMantissaAndAccuracy, twoTo_succ, ← Nat.mul_assoc,
        Nat.mul_div_cancel _ (twoTo_pos k), Nat.mul_mod_left]
      rfl
  have rounded : (shifted (m * twoTo k) e .exact).roundedMantissa = m :=
    (roundedMantissa_eq round).trans mantissa
  refine roundWithAccuracy_eq (t := e + k) (by omega) rounded ?_ (by omega) _
  rw [second, Int.sub_self]
  exact Nat.div_one m

/-- A natural number with a place for each digit is not rounded. -/
lemma round_natural {s : Sign} {n : Nat} (some : n ≠ 0) (h : n ≤ twoTo 53) (j : Nat) :
    UnpackedFloat.round Format.binary64 s (n * twoTo j) (-j) = natural s n := by
  have level : target (n * twoTo j) (-j) = n.log2 - 52 := by
    rw [target_eq, log2_mul_twoTo some]
    omega
  obtain ⟨a, ha⟩ : ∃ a, (-(j : Int) - target (n * twoTo j) (-j)).toNat = a := ⟨_, rfl⟩
  obtain ⟨k, hk⟩ : ∃ k, k + 52 = n.log2 + (j + a) :=
    ⟨n.log2 + (j + a) - 52, by omega⟩
  have moved : n * twoTo j * twoTo a = places n * twoTo k := by
    refine Nat.eq_of_mul_eq_mul_right (twoTo_pos 52) ?_
    calc n * twoTo j * twoTo a * twoTo 52 = n * twoTo 52 * twoTo (j + a) := by
          rw [twoTo_add]
          ring
      _ = places n * twoTo n.log2 * twoTo (j + a) := by rw [places_mul some h]
      _ = places n * twoTo k * twoTo 52 := by
          rw [Nat.mul_assoc, Nat.mul_assoc, ← twoTo_add, ← twoTo_add, hk]
  show roundWithAccuracy Format.binary64 s
    ((n * twoTo j) <<< (-(j : Int) - target (n * twoTo j) (-j)).toNat)
    (-j - (-(j : Int) - target (n * twoTo j) (-j)).toNat) .exact = natural s n
  rw [ha, shiftLeft_eq_mul_twoTo, moved,
    roundWithAccuracy_places (le_places some) places_lt (by omega), natural, dif_neg some,
    UnpackedFloat.finite.injEq]
  exact ⟨rfl, rfl, by omega⟩

/-- A whole number with a place for each digit is not rounded. -/
lemma normalize_whole {i : Int} (h : i.natAbs ≤ twoTo 53) (j : Nat) :
    UnpackedFloat.normalize Format.binary64 (i * twoTo j) (-j) .positive = whole i := by
  have pos : (0 : Int) < twoTo j := Int.natCast_pos.2 (twoTo_pos j)
  have digits : (i * twoTo j).natAbs = i.natAbs * twoTo j := by
    rw [Int.natAbs_mul, Int.natAbs_natCast]
  rcases Int.lt_trichotomy i 0 with negative | rfl | positive
  · have product : i * twoTo j < 0 := Int.mul_neg_of_neg_of_pos negative pos
    rw [UnpackedFloat.normalize, compare_lt_iff_lt.2 product]
    dsimp only
    rw [show (-(i * twoTo j)).toNat = (i * twoTo j).natAbs by omega, digits,
      round_natural (by omega) h, whole, if_pos negative]
  · rw [Int.zero_mul]
    rfl
  · have product : 0 < i * twoTo j := Int.mul_pos positive pos
    rw [UnpackedFloat.normalize, compare_gt_iff_gt.2 product]
    dsimp only
    rw [show (i * twoTo j).toNat = (i * twoTo j).natAbs by omega, digits,
      round_natural (by omega) h, whole, if_neg (by omega)]

lemma packed_natural {s : Sign} {n : Nat} (h : n ≤ twoTo 53) : packed (natural s n) = natural s n := by
  by_cases some : n = 0
  · rw [natural, dif_pos some]
    cases s <;> rfl
  · rw [natural, dif_neg some]
    have := log2_le_of_le h
    exact packed_finite (le_places some) places_lt (by omega) (by omega)

/-! ## Natural numbers and whole numbers -/

/-- A word of 64 bits is made a number. -/
lemma unpack_toFloat {n : Nat} (h : n ≤ twoTo 53) :
    n.toUInt64.toFloat.toModel.unpack = natural .positive n := by
  have word : n.toUInt64.toNat = n := UInt64.toNat_ofNat_of_lt' (h.trans_lt (by decide))
  have rounds := normalize_whole (i := n) h 0
  rw [show (n : Int) * twoTo 0 = n from Int.mul_one n] at rounds
  show packed (.normalize .binary64 n.toUInt64.toNat 0 .positive) = natural .positive n
  rw [word]
  exact (congrArg packed rounds).trans (packed_natural h)

lemma mul_natural_one {n : Nat} : UnpackedFloat.mul .binary64 (natural .positive n)
    (.finite .positive (twoTo 52) (-52) (twoTo_pos 52)) = natural .positive n := by
  by_cases some : n = 0
  · rw [natural, dif_pos some]
    rfl
  · rw [natural, dif_neg some]
    show roundWithAccuracy Format.binary64 .positive (places n * twoTo 52) (n.log2 - 52 + -52) .exact = _
    rw [roundWithAccuracy_places (le_places some) places_lt (by omega), UnpackedFloat.finite.injEq]
    exact ⟨rfl, rfl, by omega⟩

lemma toModel_ofNat {n : Nat} (h : n ≤ twoTo 53) :
    (Float.ofNat n).toModel = .pack (natural .positive n) := by
  rcases Nat.lt_or_eq_of_le h with short | rfl
  · have fast : n < 2 ^ 53 ∧ 0 ≤ 22 := ⟨short, Nat.zero_le _⟩
    show (Float.ofScientific n false 0).toModel = _
    rw [Float.ofScientific, dif_pos fast]
    -- the number is multiplied by the power of ten with the exponent zero
    show Float.Model.pack (.mul .binary64 n.toUInt64.toFloat.toModel.unpack
      (1.0 : Float).toModel.unpack) = _
    rw [unpack_toFloat h, one_unpack, mul_natural_one]
  · rfl

lemma neg_natural {n : Nat} (some : n ≠ 0) : (natural .positive n).neg = natural .negative n := by
  rw [natural, dif_neg some, natural, dif_neg some]
  rfl

lemma toModel_ofInt {i : Int} (h : i.natAbs ≤ twoTo 53) : (Float.ofInt i).toModel = .pack (whole i) := by
  cases i with
  | ofNat n => exact toModel_ofNat h
  | negSucc n =>
    have read : (Float.ofNat n.succ).toModel.unpack = natural .positive n.succ := by
      rw [toModel_ofNat (n := n.succ) h]
      exact packed_natural h
    have written : (Float.ofInt (Int.negSucc n)).toModel =
        .pack (.neg (Float.ofNat n.succ).toModel.unpack) := rfl
    rw [written, read, neg_natural n.succ_ne_zero, whole, if_pos (Int.negSucc_lt_zero n)]
    rfl

lemma unpack_ofInt {i : Int} (h : i.natAbs ≤ twoTo 53) : (Float.ofInt i).toModel.unpack = whole i := by
  rw [toModel_ofInt h]
  exact packed_natural h

lemma add_whole {i : Int} (h : i.natAbs ≤ twoTo 53) (h' : (i + 1).natAbs ≤ twoTo 53) :
    UnpackedFloat.add .binary64 (whole i) (.finite .positive (twoTo 52) (-52) (twoTo_pos 52)) =
      whole (i + 1) := by
  by_cases zero : i = 0
  · subst zero
    rfl
  have some : i.natAbs ≠ 0 := Int.natAbs_ne_zero.2 zero
  have low : min ((i.natAbs.log2 : Int) - 52) (-52) = -52 := by omega
  have digits (s : Sign) : (s.apply ↑(places i.natAbs * twoTo i.natAbs.log2) : Int) =
      s.apply ↑i.natAbs * twoTo 52 := by
    rw [places_mul some h]
    cases s with
    | positive => exact Int.natCast_mul ..
    | negative => exact (congrArg Neg.neg (Int.natCast_mul ..)).trans (Int.neg_mul ..).symm
  have signed : (if i < 0 then Sign.negative else .positive).apply ↑i.natAbs = i := by
    split
    next negative => exact (congrArg Neg.neg (Int.ofNat_natAbs_of_nonpos negative.le)).trans (Int.neg_neg i)
    next natural => exact Int.natAbs_of_nonneg (Int.not_lt.1 natural)
  rw [whole, natural, dif_neg some]
  show UnpackedFloat.normalize .binary64
    ((if i < 0 then Sign.negative else .positive).apply
      ↑(places i.natAbs <<< ((i.natAbs.log2 : Int) - 52 - min ((i.natAbs.log2 : Int) - 52) (-52)).toNat) +
      ↑(twoTo 52 <<< (-52 - min ((i.natAbs.log2 : Int) - 52) (-52)).toNat))
    (min ((i.natAbs.log2 : Int) - 52) (-52)) .positive = whole (i + 1)
  rw [low, shiftLeft_eq_mul_twoTo, shiftLeft_eq_mul_twoTo,
    show ((i.natAbs.log2 : Int) - 52 - -52).toNat = i.natAbs.log2 by omega, digits, signed]
  have sum : i * twoTo 52 + ↑(twoTo 52 * twoTo (-52 - -52 : Int).toNat) = (i + 1) * twoTo 52 := by
    rw [Int.add_mul, Int.one_mul]
    rfl
  rw [sum]
  exact normalize_whole h' 52

/-! ## Order -/

/-- Natural numbers are in the order of their exponents, and of their digits where these are the same. -/
lemma compare_places {a b : Nat} (ha : a ≠ 0) (hb : b ≠ 0) (ha' : a ≤ twoTo 53) (hb' : b ≤ twoTo 53) :
    (compare ((a.log2 : Int) - 52) (b.log2 - 52)).then (compare (places a) (places b)) = compare a b := by
  have below {a b : Nat} (hb : b ≠ 0) (less : a.log2 < b.log2) : a < b :=
    (lt_twoTo_log2 a).trans_le ((twoTo_le_twoTo less).trans (twoTo_log2_le hb))
  rcases Nat.lt_trichotomy a.log2 b.log2 with less | same | more
  · rw [compare_lt_iff_lt.2 (show (a.log2 : Int) - 52 < b.log2 - 52 by omega),
      compare_lt_iff_lt.2 (below hb less)]
    rfl
  · have eq : compare ((a.log2 : Int) - 52) (b.log2 - 52) = .eq := compare_eq_iff_eq.2 (by omega)
    have scaled := places_mul ha ha'
    rw [same] at scaled
    rw [eq, Ordering.then]
    rcases Nat.lt_trichotomy a b with less | rfl | more
    · have less' : places a * twoTo b.log2 < places b * twoTo b.log2 := by
        rw [scaled, places_mul hb hb']
        exact Nat.mul_lt_mul_of_pos_right less (twoTo_pos 52)
      rw [compare_lt_iff_lt.2 (Nat.lt_of_mul_lt_mul_right less'), compare_lt_iff_lt.2 less]
    · rw [compare_eq_iff_eq.2 rfl, compare_eq_iff_eq.2 rfl]
    · have more' : places b * twoTo b.log2 < places a * twoTo b.log2 := by
        rw [scaled, places_mul hb hb']
        exact Nat.mul_lt_mul_of_pos_right more (twoTo_pos 52)
      rw [compare_gt_iff_gt.2 (Nat.lt_of_mul_lt_mul_right more'), compare_gt_iff_gt.2 more]
  · rw [compare_gt_iff_gt.2 (show (a.log2 : Int) - 52 > b.log2 - 52 by omega),
      compare_gt_iff_gt.2 (below ha more)]
    rfl

lemma whole_of_neg {i : Int} (h : i < 0) : whole i =
    .finite .negative (places i.natAbs) (i.natAbs.log2 - 52) (places_pos (by omega)) := by
  rw [whole, if_pos h, natural, dif_neg (by omega)]

lemma whole_of_pos {i : Int} (h : 0 < i) : whole i =
    .finite .positive (places i.natAbs) (i.natAbs.log2 - 52) (places_pos (by omega)) := by
  rw [whole, if_neg (by omega), natural, dif_neg (by omega)]

lemma le_whole_iff {i j : Int} (hi : i.natAbs ≤ twoTo 53) (hj : j.natAbs ≤ twoTo 53) :
    (whole i).le (whole j) = true ↔ i ≤ j := by
  have zero : whole 0 = .zero .positive := rfl
  rcases Int.lt_trichotomy i 0 with negative | rfl | positive
  · rw [whole_of_neg negative]
    rcases Int.lt_trichotomy j 0 with negative' | rfl | positive'
    · rw [whole_of_neg negative']
      show (((compare ((i.natAbs.log2 : Int) - 52) (j.natAbs.log2 - 52)).then
        (compare (places i.natAbs) (places j.natAbs))).swap).isLE = true ↔ i ≤ j
      rw [compare_places (by omega) (by omega) hi hj, Nat.compare_swap, Nat.isLE_compare]
      omega
    · exact iff_of_true rfl negative.le
    · rw [whole_of_pos positive']
      exact iff_of_true rfl (by omega)
  · rw [zero]
    rcases Int.lt_trichotomy j 0 with negative' | rfl | positive'
    · rw [whole_of_neg negative']
      exact iff_of_false nofun (by omega)
    · exact iff_of_true rfl (Int.le_refl 0)
    · rw [whole_of_pos positive']
      exact iff_of_true rfl positive'.le
  · rw [whole_of_pos positive]
    rcases Int.lt_trichotomy j 0 with negative' | rfl | positive'
    · rw [whole_of_neg negative']
      exact iff_of_false nofun (by omega)
    · exact iff_of_false nofun (by omega)
    · rw [whole_of_pos positive']
      show ((compare ((i.natAbs.log2 : Int) - 52) (j.natAbs.log2 - 52)).then
        (compare (places i.natAbs) (places j.natAbs))).isLE = true ↔ i ≤ j
      rw [compare_places (by omega) (by omega) hi hj, Nat.isLE_compare]
      omega

end Magnitude

open Magnitude

/-- One more than a whole number is computed as it is. -/
theorem Binary.ofInt_add_one {i : Int} (h : i.natAbs ≤ twoTo 53) (h' : (i + 1).natAbs ≤ twoTo 53) :
    Float.ofInt i + 1.0 = Float.ofInt (i + 1) := by
  have sum : (Float.ofInt i + 1.0).toModel = (Float.ofInt (i + 1)).toModel := by
    show Float.Model.pack (.add .binary64 (Float.ofInt i).toModel.unpack (1.0 : Float).toModel.unpack) = _
    rw [unpack_ofInt h, one_unpack, add_whole h h', toModel_ofInt h']
  exact congrArg Float.ofModel sum

/-- Whole numbers are compared as they are. -/
theorem Binary.ofInt_le_ofInt_iff {i j : Int} (hi : i.natAbs ≤ twoTo 53) (hj : j.natAbs ≤ twoTo 53) :
    Float.ofInt i ≤ Float.ofInt j ↔ i ≤ j := by
  rw [← le_whole_iff hi hj, ← unpack_ofInt hi, ← unpack_ofInt hj]
  exact decide_eq_true_iff

end Playback
