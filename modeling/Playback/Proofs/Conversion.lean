import Playback.Json.Number
import Playback.Proofs.WholeNumbers

/-!
# Converting JSON numbers

The word of 64 bits that a number in a document is made of, and the power of ten that it is multiplied by,
are both rounded to 53 binary digits. Each becomes greater by one part in `2 ^ 52` at most
(`Magnitude.IsClose`), so that their product may be infinite for the last few numbers of the range only.
A quotient by a power of ten is never infinite.

Main statements: a number with a negative power of ten is not refused (`Numeral.isSome_scaled?_neg`), nor
is one whose value does not come close to the end of the range (`Numeral.isSome_scaled?_natural`), and the
value of a number that is not refused is finite (`Numeral.isFinite_jsonFloat`).
-/

namespace Playback

namespace Magnitude

open Float.Model (Format UnpackedFloat)
open Float.Model.UnpackedFloat

/-! ## Close numbers -/

/-- Finite with all 53 digits, and greater than the natural number by one part in `2 ^ 52` at most. -/
def IsClose (x : UnpackedFloat) (n : Nat) : Prop :=
  ∃ s m e h, x = .finite s m e h ∧ twoTo 52 ≤ m ∧ -52 ≤ e ∧
    m * twoTo (e + 52).toNat ≤ n * (twoTo 52 + 1)

/-- A carry moves the digits by one place at most, and loses none of them. -/
lemma target_carried {r : Nat} {t : Int} (least : twoTo 52 ≤ r) (most : r ≤ twoTo 53) (low : -1074 ≤ t) :
    ∃ k ≤ 1, (target r t - t).toNat = k ∧ r / twoTo k * twoTo k = r ∧ twoTo 52 ≤ r / twoTo k ∧
      r / twoTo k < twoTo 53 := by
  have level := target_eq r t
  rcases Nat.lt_or_ge r (twoTo 53) with short | carry
  · have bits : r.log2 = 52 := (Nat.log2_eq_iff ((twoTo_pos 52).trans_le least).ne').2 ⟨least, short⟩
    have whole : r / twoTo 0 = r := Nat.div_one r
    rw [bits] at level
    exact ⟨0, by decide, by omega, by rw [whole]; exact Nat.mul_one r, whole.symm ▸ least, whole.symm ▸ short⟩
  · obtain rfl : r = twoTo 53 := Nat.le_antisymm most carry
    have bits : (twoTo 53).log2 = 53 := rfl
    rw [bits] at level
    exact ⟨1, le_refl 1, by omega, rfl, by decide, by decide⟩

/-- Rounding to 53 digits makes a number greater by less than one unit of the last digit. -/
lemma roundWithAccuracy_le {m : Nat} {e : Int} {accuracy : Accuracy} (s : Sign) (long : twoTo 52 ≤ m)
    (normal : -1022 ≤ m.log2 + e) :
    ∃ m' e' h, roundWithAccuracy Format.binary64 s m e accuracy = .finite s m' e' h ∧
      twoTo 52 ≤ m' ∧ m' < twoTo 53 ∧ target m e ≤ e' ∧ e' ≤ target m e + 1 ∧
      m' * twoTo (e' - target m e).toNat ≤ m / twoTo (target m e - e).toNat + 1 := by
  have some : m ≠ 0 := ((twoTo_pos 52).trans_le long).ne'
  have log : 52 ≤ m.log2 := (Nat.le_log2 some).2 long
  have level := target_eq m e
  have below := @mantissa_shifted_lt m e accuracy
  have most := roundedMantissa_le (shifted m e accuracy)
  have least : twoTo 52 ≤ (shifted m e accuracy).roundedMantissa := by
    refine le_trans ?_ (le_roundedMantissa _)
    rw [mantissa_shifted, Nat.le_div_iff_mul_le (twoTo_pos _), ← twoTo_add,
      show 52 + (target m e - e).toNat = m.log2 by omega]
    exact twoTo_log2_le some
  obtain ⟨k, one, carry, exact, least', short⟩ :=
    target_carried least (most.trans below) (show -1074 ≤ target m e by omega)
  refine ⟨_, target m e + k, (twoTo_pos 52).trans_le least',
    roundWithAccuracy_eq (t := target m e) (by omega) rfl (by rw [carry]) (by rw [carry]) _, least', short,
    by omega, by omega, ?_⟩
  rw [show (target m e + k - target m e).toNat = k by omega, exact, ← mantissa_shifted]
  exact most

/-- A number that is rounded down to 53 digits, or to one unit of the last digit above that, is close to what
it was. -/
lemma mul_twoTo_log2_le {n steps k q : Nat} (some : n ≠ 0) (behind : n.log2 + steps = k + 52)
    (value : q ≤ n * twoTo steps / twoTo k + 1) : q * twoTo n.log2 ≤ n * (twoTo 52 + 1) := by
  have units : twoTo n.log2 * twoTo steps = twoTo k * twoTo 52 := by
    rw [← twoTo_add, ← twoTo_add, behind]
  have floor : n * twoTo steps / twoTo k * twoTo n.log2 ≤ n * twoTo 52 := by
    refine Nat.le_of_mul_le_mul_right ?_ (twoTo_pos steps)
    calc n * twoTo steps / twoTo k * twoTo n.log2 * twoTo steps =
          n * twoTo steps / twoTo k * twoTo k * twoTo 52 := by rw [Nat.mul_assoc, units, Nat.mul_assoc]
      _ ≤ n * twoTo steps * twoTo 52 := Nat.mul_le_mul_right _ (Nat.div_mul_le_self ..)
      _ = n * twoTo 52 * twoTo steps := by ring
  calc q * twoTo n.log2 ≤ (n * twoTo steps / twoTo k + 1) * twoTo n.log2 := Nat.mul_le_mul_right _ value
    _ ≤ n * twoTo 52 + n := by
        rw [Nat.add_mul, Nat.one_mul]
        exact Nat.add_le_add floor (twoTo_log2_le some)
    _ = n * (twoTo 52 + 1) := rfl

/-- A natural number with digits enough behind it is rounded to one that is close to it. -/
lemma exists_packed_round {n steps : Nat} (some : n ≠ 0) (long : 52 ≤ n.log2 + steps)
    (below : n * (twoTo 52 + 1) < twoTo 1076) :
    ∃ m e h, packed (roundWithAccuracy Format.binary64 .positive (n * twoTo steps) (-steps) .exact) =
        .finite .positive m e h ∧ twoTo 52 ≤ m ∧ n.log2 ≤ e + 52 ∧ e + 51 ≤ n.log2 ∧
      m * twoTo (e + 52).toNat ≤ n * (twoTo 52 + 1) := by
  have bits := log2_mul_twoTo some steps
  have digits : twoTo 52 ≤ n * twoTo steps := by
    refine le_trans ?_ (twoTo_log2_le (Nat.mul_ne_zero some (twoTo_pos steps).ne'))
    rw [bits]
    exact twoTo_le_twoTo long
  have level : target (n * twoTo steps) (-steps) = n.log2 - 52 := by
    rw [target_eq, bits]
    omega
  obtain ⟨m, e, h, rounds, least, short, low, high, value⟩ :=
    @roundWithAccuracy_le _ (-steps) .exact .positive digits (by omega)
  rw [level] at low high value
  have close : m * twoTo (e + 52).toNat ≤ n * (twoTo 52 + 1) := by
    calc m * twoTo (e + 52).toNat = m * twoTo (e - (n.log2 - 52)).toNat * twoTo n.log2 := by
          rw [Nat.mul_assoc, ← twoTo_add,
            show (e - (n.log2 - 52)).toNat + n.log2 = (e + 52).toNat by omega]
      _ ≤ n * (twoTo 52 + 1) := mul_twoTo_log2_le some (by omega) value
  have exponent : twoTo (52 + (e + 52).toNat) < twoTo 1076 := by
    rw [twoTo_add]
    exact ((Nat.mul_le_mul_right _ least).trans close).trans_lt below
  have top := lt_of_twoTo_lt_twoTo exponent
  refine ⟨m, e, h, ?_, least, by omega, by omega, close⟩
  rw [rounds, packed_finite least short (by omega) (by omega)]

/-- A word of 64 bits is made a number. -/
lemma exists_unpack_word {n : Nat} (some : n ≠ 0) (word : n < UInt64.size) :
    ∃ m e h, n.toUInt64.toFloat.toModel.unpack = .finite .positive m e h ∧ twoTo 52 ≤ m ∧
      n.log2 ≤ e + 52 ∧ e + 51 ≤ n.log2 ∧ m * twoTo (e + 52).toNat ≤ n * (twoTo 52 + 1) := by
  have toNat : n.toUInt64.toNat = n := UInt64.toNat_ofNat_of_lt' word
  have level : target n 0 = n.log2 - 52 := by
    rw [target_eq]
    omega
  let steps := (0 - target n 0).toNat
  have rounds : UnpackedFloat.normalize Format.binary64 n 0 .positive =
      roundWithAccuracy Format.binary64 .positive (n * twoTo steps) (-steps) .exact := by
    obtain ⟨n, rfl⟩ := Nat.exists_eq_succ_of_ne_zero some
    rw [← shiftLeft_eq_mul_twoTo, ← Int.zero_sub]
    rfl
  have below : n * (twoTo 52 + 1) < twoTo 1076 := by
    calc n * (twoTo 52 + 1) ≤ twoTo 64 * twoTo 53 := Nat.mul_le_mul word.le (by decide)
      _ = twoTo 117 := (twoTo_add 64 53).symm
      _ < twoTo 1076 := twoTo_lt_twoTo (by decide)
  rw [show n.toUInt64.toFloat.toModel.unpack =
    packed (.normalize .binary64 n.toUInt64.toNat 0 .positive) from rfl, toNat, rounds]
  exact exists_packed_round some (by omega) below

lemma isClose_word {n : Nat} (some : n ≠ 0) (word : n < UInt64.size) :
    IsClose n.toUInt64.toFloat.toModel.unpack n := by
  obtain ⟨m, e, h, digits, least, low, -, value⟩ := exists_unpack_word some word
  exact ⟨_, m, e, h, digits, least, by omega, value⟩

lemma isModerate_word (word : UInt64) : IsModerate word.toFloat.toModel.unpack := by
  obtain ⟨n, below, rfl⟩ : ∃ n < UInt64.size, word = n.toUInt64 :=
    ⟨word.toNat, word.toNat_lt, UInt64.ofNat_toNat.symm⟩
  by_cases zero : n = 0
  · subst zero
    exact isModerate_zero .positive
  obtain ⟨m, e, h, digits, -, -, high, -⟩ := exists_unpack_word zero below
  have short : m < twoTo 53 := (bounds_of_unpack digits).1
  have log : n.log2 < 64 := log2_lt_of_lt_twoTo (by decide) below
  rw [digits]
  exact ⟨rfl, fun {s m' e' h'} same => by cases same; exact ⟨short, by omega⟩⟩

/-! ## Products -/

/-- The upper end of the interval of the finite number that has five greater ones. -/
def limit : Nat := (twoTo 55 - 22) * twoTo 969

lemma limit_lt : limit * (twoTo 52 + 1) * (twoTo 52 + 1) * twoTo 970 < overflow * twoTo 1074 := by
  have digits : (twoTo 55 - 22) * (twoTo 52 + 1) * (twoTo 52 + 1) < (twoTo 54 - 1) * twoTo 105 := by
    decide
  calc limit * (twoTo 52 + 1) * (twoTo 52 + 1) * twoTo 970 =
        (twoTo 55 - 22) * (twoTo 52 + 1) * (twoTo 52 + 1) * (twoTo 969 * twoTo 970) := by
        rw [limit]
        ring
    _ < (twoTo 54 - 1) * twoTo 105 * (twoTo 969 * twoTo 970) :=
        Nat.mul_lt_mul_of_pos_right digits (Nat.mul_pos (twoTo_pos _) (twoTo_pos _))
    _ = overflow * twoTo 1074 := by rw [overflow_eq, Nat.mul_assoc, ← twoTo_add, ← twoTo_add]

lemma overflow_lt : overflow * twoTo 1074 < twoTo 2098 := by
  rw [show 2098 = 1024 + 1074 from rfl, twoTo_add]
  exact Nat.mul_lt_mul_of_pos_right (Nat.sub_lt (twoTo_pos _) (twoTo_pos _)) (twoTo_pos _)

lemma limit_lt_twoTo : limit < twoTo 1024 := by
  rw [limit, show 1024 = 55 + 969 from rfl, twoTo_add]
  exact Nat.mul_lt_mul_of_pos_right (by decide) (twoTo_pos _)

/-- The product of two numbers is finite if the numbers which they are close to have a product up to the
limit. -/
lemma isFinite_mul_of_isClose {x y : UnpackedFloat} {a b : Nat} (hx : IsClose x a) (hy : IsClose y b)
    (within : a * b ≤ limit) : (packed (mul Format.binary64 x y)).isFinite = true := by
  obtain ⟨s₁, m₁, e₁, h₁, rfl, least₁, low₁, value₁⟩ := hx
  obtain ⟨s₂, m₂, e₂, h₂, rfl, least₂, low₂, value₂⟩ := hy
  have below : m₁ * m₂ * twoTo (e₁ + e₂ + 1074).toNat < overflow * twoTo 1074 := by
    calc m₁ * m₂ * twoTo (e₁ + e₂ + 1074).toNat =
          m₁ * twoTo (e₁ + 52).toNat * (m₂ * twoTo (e₂ + 52).toNat) * twoTo 970 := by
          rw [show (e₁ + e₂ + 1074).toNat = (e₁ + 52).toNat + (e₂ + 52).toNat + 970 by omega, twoTo_add,
            twoTo_add]
          ring
      _ ≤ a * (twoTo 52 + 1) * (b * (twoTo 52 + 1)) * twoTo 970 :=
          Nat.mul_le_mul_right _ (Nat.mul_le_mul value₁ value₂)
      _ = a * b * (twoTo 52 + 1) * (twoTo 52 + 1) * twoTo 970 := by ring
      _ ≤ limit * (twoTo 52 + 1) * (twoTo 52 + 1) * twoTo 970 :=
          Nat.mul_le_mul_right _ (Nat.mul_le_mul_right _ (Nat.mul_le_mul_right _ within))
      _ < overflow * twoTo 1074 := limit_lt
  have exponents : twoTo (104 + (e₁ + e₂ + 1074).toNat) < twoTo 2098 := by
    calc twoTo (104 + (e₁ + e₂ + 1074).toNat) = twoTo 52 * twoTo 52 * twoTo (e₁ + e₂ + 1074).toNat := by
          rw [← twoTo_add, ← twoTo_add]
      _ ≤ m₁ * m₂ * twoTo (e₁ + e₂ + 1074).toNat := Nat.mul_le_mul_right _ (Nat.mul_le_mul least₁ least₂)
      _ < twoTo 2098 := below.trans overflow_lt
  have high := lt_of_twoTo_lt_twoTo exponents
  show (packed (roundWithAccuracy Format.binary64 (s₁ * s₂) (m₁ * m₂) (e₁ + e₂) .exact)).isFinite = true
  exact isFinite_of_lt_overflow (by omega) (by omega) below

end Magnitude

namespace Numeral

open Float.Model (Format UnpackedFloat)
open Magnitude

/-! ## Powers of ten -/

/-- A power of ten is a natural number that is rounded, if it is not exact. -/
lemma unpack_powerOfTen {k : Nat} (long : 22 < k) (h : k ≤ lastPower) :
    (powerOfTen k).toModel.unpack =
      packed (.roundWithAccuracy Format.binary64 .positive (tenTo k * twoTo 53) (-53) .exact) := by
  have slow : ¬ (1 < 2 ^ 53 ∧ k ≤ 22) := by omega
  have model : powerOfTen k = .ofModel (Float.Model.ofScientific 1 k) := by
    rw [powerOfTen, Float.ofScientific, dif_neg slow]
    rfl
  have small : ¬ (k : Int) > 2048 := by
    rw [lastPower] at h
    omega
  have large : ¬ (k : Int) < -(2048 + Nat.log2 1) := by omega
  rw [model]
  show packed (.ofScientific Format.binary64 1 k) = _
  rw [UnpackedFloat.ofScientific, dif_neg Nat.one_ne_zero, if_neg (by exact small),
    if_neg (by exact large), if_pos (Int.natCast_nonneg k)]
  show packed (.roundWithAccuracy Format.binary64 .positive ((1 <<< 53) * tenTo k) (-53) .exact) = _
  rw [shiftLeft_eq_mul_twoTo, Nat.one_mul, Nat.mul_comm]

/-- A number that is close to a power of ten, and high enough. -/
def isPower (k : Nat) : UnpackedFloat → Bool
  | .finite _ m e _ => decide (twoTo 52 ≤ m ∧ 3 * (k : Int) ≤ e + 52 ∧
      m * twoTo (e + 52).toNat ≤ tenTo k * (twoTo 52 + 1))
  | _ => false

lemma isPower_exact :
    (List.range 23).all (fun k => isPower k (powerOfTen k).toModel.unpack) = true := by
  decide +kernel

/-- The powers of ten on either side of the end of the range. -/
lemma tenTo_lastPower_lt :
    tenTo lastPower * (twoTo 52 + 1) < twoTo 1076 ∧ twoTo 1024 < tenTo (lastPower + 1) := by
  decide +kernel

/-- Eight is less than ten, so a power of ten has three binary digits for each decimal one. -/
lemma le_log2_tenTo (k : Nat) : 3 * k ≤ (tenTo k).log2 := by
  refine (Nat.le_log2 (tenTo_pos k).ne').2 ?_
  calc 2 ^ (3 * k) = 8 ^ k := Nat.pow_mul 2 3 k
    _ ≤ tenTo k := Nat.pow_le_pow_left (by decide) k

lemma exists_unpack_powerOfTen {k : Nat} (h : k ≤ lastPower) :
    ∃ s m e some, (powerOfTen k).toModel.unpack = .finite s m e some ∧ twoTo 52 ≤ m ∧
      3 * (k : Int) ≤ e + 52 ∧ m * twoTo (e + 52).toNat ≤ tenTo k * (twoTo 52 + 1) := by
  rcases Nat.lt_or_ge 22 k with long | short
  · have log := le_log2_tenTo k
    have below : tenTo k * (twoTo 52 + 1) < twoTo 1076 :=
      (Nat.mul_le_mul_right _ (Shortest.tenTo_le_tenTo h)).trans_lt tenTo_lastPower_lt.1
    obtain ⟨m, e, some, digits, least, low, -, value⟩ :=
      @exists_packed_round _ 53 (tenTo_pos k).ne' (by omega) below
    exact ⟨.positive, m, e, some, (unpack_powerOfTen long h).trans digits, least, by omega, value⟩
  · have power := List.all_eq_true.1 isPower_exact k (List.mem_range.2 (Nat.lt_succ_of_le short))
    cases digits : (powerOfTen k).toModel.unpack with
    | notANumber | infinity s | zero s =>
      rw [digits] at power
      cases power
    | finite s m e some =>
      rw [digits] at power
      exact ⟨s, m, e, some, rfl, of_decide_eq_true power⟩

lemma isClose_powerOfTen {k : Nat} (h : k ≤ lastPower) :
    IsClose (powerOfTen k).toModel.unpack (tenTo k) := by
  obtain ⟨s, m, e, some, digits, least, low, value⟩ := exists_unpack_powerOfTen h
  exact ⟨s, m, e, some, digits, least, by omega, value⟩

/-! ## Quotients -/

variable {x : Float}

lemma isModerate_lowered (hx : IsModerate x.toModel.unpack) (steps : Nat) :
    IsModerate (lowered x steps).toModel.unpack := by
  induction steps generalizing x with
  | zero => exact hx
  | succ steps ih =>
    rw [lowered]
    split
    · exact hx
    · obtain ⟨s, m, e, some, digits, -, high, -⟩ := exists_unpack_powerOfTen (le_refl lastPower)
      have large : 1 ≤ e := by
        rw [lastPower] at high
        omega
      refine ih ?_
      show IsModerate (packed (.div .binary64 x.toModel.unpack (powerOfTen lastPower).toModel.unpack))
      rw [digits]
      exact isModerate_div hx large

lemma isFinite_div_powerOfTen (hx : IsModerate x.toModel.unpack) {k : Nat} (h : k ≤ lastPower) :
    (x / powerOfTen k).isFinite = true := by
  obtain ⟨s, m, e, some, digits, -, low, -⟩ := exists_unpack_powerOfTen h
  show (packed (.div .binary64 x.toModel.unpack (powerOfTen k).toModel.unpack)).isFinite = true
  rw [digits]
  exact isFinite_div hx (by omega)

/-- What is not refused is finite. -/
lemma isFinite_of_scaled? (hx : IsModerate x.toModel.unpack) {power : Int} {y : Float}
    (h : scaled? x power = some y) : y.isFinite = true := by
  unfold scaled? at h
  dsimp only at h
  split at h
  · cases h
    refine isFinite_div_powerOfTen (isModerate_lowered hx _) ?_
    rw [lastPower]
    omega
  split at h
  · split at h
    next finite =>
      cases h
      exact finite
    next => cases h
  split at h
  · cases h
    exact hx.1
  · cases h

lemma isFinite_signed {negative : Bool} (h : x.isFinite = true) : (signed negative x).isFinite = true := by
  cases negative with
  | false => exact h
  | true => exact Binary.isFinite_neg h

/-- The value of a number that is not refused is finite. -/
theorem isFinite_jsonFloat {n : Numeral} (h : n.isInRange = true) : n.jsonFloat.isFinite = true := by
  obtain ⟨y, hy⟩ := Option.isSome_iff_exists.1 h
  rw [jsonFloat, hy, Option.getD_some]
  obtain ⟨z, hz, rfl⟩ := Option.map_eq_some_iff.1 hy
  exact isFinite_signed (isFinite_of_scaled? (isModerate_word _) hz)

/-! ## What is not refused -/

lemma isSome_scaled?_neg {power : Int} (h : power < 0) : (scaled? x power).isSome = true := by
  rw [scaled?, if_pos h]
  rfl

/-- Zero is not refused, whatever power of ten it is multiplied by. -/
lemma isSome_scaled?_zero (k : Nat) : (scaled? (0 : Nat).toUInt64.toFloat k).isSome = true := by
  rw [scaled?, if_neg (by omega), Int.natAbs_natCast]
  split
  next small =>
    have finite : ((0 : Nat).toUInt64.toFloat * powerOfTen k).isFinite = true := by
      obtain ⟨s, m, e, some, digits, -⟩ := exists_unpack_powerOfTen small
      show (packed (.mul .binary64 (.zero .positive) (powerOfTen k).toModel.unpack)).isFinite = true
      rw [digits]
      exact isFinite_packed_zero _
    rw [if_pos finite]
    rfl
  next => rfl

/-- A product up to the limit is not refused. -/
theorem isSome_scaled?_natural {n k : Nat} (word : n < UInt64.size) (within : n * tenTo k ≤ limit) :
    (scaled? n.toUInt64.toFloat k).isSome = true := by
  by_cases zero : n = 0
  · subst zero
    exact isSome_scaled?_zero k
  have small : k ≤ lastPower := by
    by_contra large
    have power : tenTo (lastPower + 1) ≤ tenTo k := Shortest.tenTo_le_tenTo (by omega)
    have value : tenTo k ≤ n * tenTo k := Nat.le_mul_of_pos_left _ (Nat.pos_of_ne_zero zero)
    have last := limit_lt_twoTo.trans tenTo_lastPower_lt.2
    exact absurd (last.trans_le (power.trans value)) (Nat.not_lt.2 within)
  have finite : (n.toUInt64.toFloat * powerOfTen k).isFinite = true :=
    isFinite_mul_of_isClose (isClose_word zero word) (isClose_powerOfTen small) within
  rw [scaled?, if_neg (by omega), Int.natAbs_natCast, if_pos small, if_pos finite]
  rfl

/-! ## Significands -/

lemma le_ofDigitChars (ds : List Char) (word : Nat) : word ≤ Nat.ofDigitChars 10 ds word := by
  induction ds generalizing word with
  | nil => exact Nat.le_refl word
  | cons c cs ih =>
    rw [Nat.ofDigitChars_cons]
    exact le_trans (by omega) (ih _)

/-- Digits that fit a word together fit one after another. -/
lemma takeDigits_eq {ds : List Char} {word : Nat} (h : Nat.ofDigitChars 10 ds word < UInt64.size) :
    takeDigits word ds = (Nat.ofDigitChars 10 ds word, []) := by
  induction ds generalizing word with
  | nil => rfl
  | cons c cs ih =>
    rw [Nat.ofDigitChars_cons] at h ⊢
    have fits := (le_ofDigitChars cs _).trans_lt h
    rw [takeDigits, if_pos fits, ih h]

/-- The significand of a number whose digits fit a word is all of them. -/
lemma significand_eq {n : Numeral} (h : n.mantissa < UInt64.size) :
    n.significand = (n.mantissa, n.exponent.getD 0 - n.places) := by
  have length : (n.digits.drop (n.digits.length - n.places)).length = n.places := by
    have := places_lt_length_digits n
    rw [List.length_drop]
    omega
  have whole : Nat.ofDigitChars 10 (n.digits.drop (n.digits.length - n.places))
      (Nat.ofDigitChars 10 (n.digits.take (n.digits.length - n.places)) 0) = n.mantissa := by
    rw [← Nat.ofDigitChars_append, List.take_append_drop, ofDigitChars_digits]
  have fits := (le_ofDigitChars (n.digits.drop (n.digits.length - n.places)) _).trans_lt (whole ▸ h)
  rw [significand, takeDigits_eq fits]
  dsimp only
  rw [takeDigits_eq (whole ▸ h), whole, length]
  refine Prod.ext rfl ?_
  show ((0 : Nat) : Int) - ((n.places - 0 : Nat) : Int) + n.exponent.getD 0 = _
  omega

/-- A number whose digits fit a word is not refused if their product or quotient is not. -/
lemma isInRange_of_scaled? {n : Numeral} (h : n.mantissa < UInt64.size) {power : Int}
    (hpower : n.exponent.getD 0 - n.places = power)
    (scales : (scaled? n.mantissa.toUInt64.toFloat power).isSome = true) : n.isInRange = true := by
  rw [isInRange, jsonFloat?, significand_eq h, hpower]
  exact Option.isSome_map.trans scales

end Numeral

end Playback
