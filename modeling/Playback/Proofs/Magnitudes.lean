import Playback.Proofs.Rounding

/-!
# Magnitudes of results

The result of an operation on numbers is rounded to 53 binary digits, and it is infinite when their
exponent is higher than that of the greatest finite number. The end of the range (`Magnitude.overflow`)
lies half a digit behind the greatest finite number, so everything before it is rounded to a finite
number.

Main statement: counting on from a finite number leads to a finite number (`Binary.isFinite_add_one`).
-/

namespace Playback

lemma lt_of_twoTo_lt_twoTo {m n : Nat} (h : twoTo m < twoTo n) : m < n :=
  (Nat.pow_lt_pow_iff_right (by decide)).1 h

lemma twoTo_log2_le {m : Nat} (h : m ≠ 0) : twoTo m.log2 ≤ m :=
  Nat.log2_self_le h

lemma lt_twoTo_log2 (m : Nat) : m < twoTo (m.log2 + 1) :=
  Nat.lt_log2_self

lemma log2_lt_of_lt_twoTo {m k : Nat} (hk : 0 < k) (h : m < twoTo k) : m.log2 < k := by
  cases m with
  | zero => exact hk
  | succ m => exact (Nat.log2_lt (Nat.succ_ne_zero m)).2 h

lemma shiftLeft_eq_mul_twoTo (m k : Nat) : m <<< k = m * twoTo k :=
  Nat.shiftLeft_eq m k

namespace Magnitude

open Float.Model (Format UnpackedFloat totalExponent)
open Float.Model.UnpackedFloat

/-! ## Packing -/

/-- What a number is when it is written in its bits and read again. -/
def packed (x : UnpackedFloat) : UnpackedFloat :=
  unpack Format.binary64 (pack Format.binary64 x)

lemma bias_eq : (Format.binary64.exponentBias : Int) = 1023 := rfl

/-- The digits of a number that is read from bits, and its exponent. -/
lemma bounds_of_unpack {b : BitVec Format.binary64.numBits} {s : Sign} {m : Nat} {e : Int} {h}
    (digits : unpack Format.binary64 b = .finite s m e h) :
    m < twoTo 53 ∧ -1074 ≤ e ∧ e ≤ 971 ∧ e ≤ max (unpackExponent b).toNat 1 - 1075 := by
  have exponent : (unpackExponent b).toNat < 2048 := (unpackExponent b).isLt
  unfold unpack at digits
  dsimp only at digits
  by_cases infinite : unpackExponent b = -1#11
  · rw [if_pos infinite] at digits
    by_cases blank : unpackMantissa b = 0#52
    · rw [if_pos blank] at digits
      cases digits
    · rw [if_neg blank] at digits
      cases digits
  · rw [if_neg infinite] at digits
    have finite : (unpackExponent b).toNat ≠ 2047 := fun eq => infinite (BitVec.eq_of_toNat_eq eq)
    by_cases low : unpackExponent b = 0#11
    · rw [if_pos low] at digits
      have low : (unpackExponent b).toNat = 0 := congrArg BitVec.toNat low
      by_cases blank : unpackMantissa b = 0#52
      · rw [dif_pos blank] at digits
        cases digits
      · rw [dif_neg blank] at digits
        cases digits
        have short : (unpackMantissa b).toNat < twoTo 52 := (unpackMantissa b).isLt
        rw [bias_eq, low]
        exact ⟨short.trans_le (twoTo_le_twoTo (by decide)), by decide, by decide, by decide⟩
    · rw [if_neg low] at digits
      have some : (unpackExponent b).toNat ≠ 0 := fun eq => low (BitVec.eq_of_toNat_eq eq)
      cases digits
      rw [bias_eq]
      exact ⟨(1#1 ++ unpackMantissa b).isLt, by omega, by omega, by omega⟩

/-- The exponent that is written for a number which is not too high. -/
lemma unpackExponent_pack {s : Sign} {m : Nat} {e : Int} {h : 0 < m} (most : e ≤ 971) :
    (unpackExponent (pack Format.binary64 (.finite s m e h))).toNat ≤ (e + 1075).toNat := by
  unfold pack
  dsimp only
  rw [bias_eq, if_neg (show ¬ 2048 ≤ (e + 1023 + (52 : Nat)).toNat + 1 by omega)]
  split
  · rw [unpackExponent_packComponents]
    show (e + 1023 + (52 : Nat)).toNat % 2048 ≤ (e + 1075).toNat
    omega
  · rw [unpackExponent_packComponents]
    exact Nat.zero_le _

/-- What is read from bits is finite unless all the bits of its exponent are set. -/
lemma isFinite_unpack {b : BitVec Format.binary64.numBits} (finite : unpackExponent b ≠ -1#11) :
    (unpack Format.binary64 b).isFinite = true := by
  unfold unpack
  dsimp only
  rw [if_neg finite]
  by_cases low : unpackExponent b = 0#11
  · rw [if_pos low]
    by_cases blank : unpackMantissa b = 0#52
    · rw [dif_pos blank]
      rfl
    · rw [dif_neg blank]
      rfl
  · rw [if_neg low]
    rfl

/-- A number that is not too high is finite when it is written, and its exponent is not higher. -/
lemma isFinite_packed {s : Sign} {m : Nat} {e : Int} {h : 0 < m} (most : e ≤ 971) :
    (packed (.finite s m e h)).isFinite = true := by
  have written := unpackExponent_pack (s := s) (h := h) most
  have finite : unpackExponent (pack Format.binary64 (.finite s m e h)) ≠ (-1#11) := by
    intro eq
    rw [eq] at written
    have : (-1#11).toNat = 2047 := rfl
    omega
  exact isFinite_unpack finite

lemma isFinite_packed_zero (s : Sign) : (packed (.zero s)).isFinite = true := by
  cases s <;> decide

lemma exponent_le_of_packed {s s' : Sign} {m m' : Nat} {e e' : Int} {h h'} (most : e ≤ 971)
    (digits : packed (.finite s m e h) = .finite s' m' e' h') : e' ≤ max e (-1074) := by
  obtain ⟨-, -, -, le⟩ := bounds_of_unpack digits
  have written := unpackExponent_pack (s := s) (h := h) most
  omega

/-! ## Rounding -/

lemma mantissa_repeat (digits : ExtendedMantissa) (n : Nat) :
    (n.repeat ExtendedMantissa.shiftRightOne digits).mantissa = digits.mantissa / twoTo n := by
  induction n with
  | zero => exact (Nat.div_one _).symm
  | succ n ih =>
    rw [Nat.repeat, ExtendedMantissa.shiftRightOne, ih, Nat.div_div_eq_div_mul, twoTo_succ,
      Nat.mul_comm]

lemma roundBit_repeat (digits : ExtendedMantissa) (n : Nat) :
    ((n + 1).repeat ExtendedMantissa.shiftRightOne digits).roundBit =
      (digits.mantissa / twoTo n % 2 != 0) := by
  rw [Nat.repeat, ExtendedMantissa.shiftRightOne, mantissa_repeat]

lemma mantissa_ofMantissaAndAccuracy (m : Nat) (accuracy : Accuracy) :
    (ExtendedMantissa.ofMantissaAndAccuracy m accuracy).mantissa = m := by
  unfold ExtendedMantissa.ofMantissaAndAccuracy
  split <;> rfl

lemma le_roundedMantissa (digits : ExtendedMantissa) : digits.mantissa ≤ digits.roundedMantissa := by
  obtain ⟨m, round, sticky⟩ := digits
  cases round <;> cases sticky <;>
    simp [ExtendedMantissa.roundedMantissa, ExtendedMantissa.accuracy, Accuracy.roundToNearestEven]

lemma roundedMantissa_le (digits : ExtendedMantissa) :
    digits.roundedMantissa ≤ digits.mantissa + 1 := by
  obtain ⟨m, round, sticky⟩ := digits
  cases round <;> cases sticky <;>
    simp [ExtendedMantissa.roundedMantissa, ExtendedMantissa.accuracy, Accuracy.roundToNearestEven]
  omega

lemma roundedMantissa_eq {digits : ExtendedMantissa} (h : digits.roundBit = false) :
    digits.roundedMantissa = digits.mantissa := by
  obtain ⟨m, round, sticky⟩ := digits
  cases h
  cases sticky <;> rfl

/-- The exponent that a number is rounded at. -/
def target (m : Nat) (e : Int) : Int :=
  Format.binary64.targetExponent (totalExponent m e)

lemma target_eq (m : Nat) (e : Int) : target m e = max (m.log2 + 1 + e - 53) (-1074) := rfl

/-- The digits of a number at the exponent that it is rounded at, and what is behind them. -/
def shifted (m : Nat) (e : Int) (accuracy : Accuracy) : ExtendedMantissa :=
  (target m e - e).toNat.repeat ExtendedMantissa.shiftRightOne
    (ExtendedMantissa.ofMantissaAndAccuracy m accuracy)

/-- The exponent of the number that is rounded to. -/
def placed (m : Nat) (e : Int) (accuracy : Accuracy) : Int :=
  max (max e (target m e)) (target (shifted m e accuracy).roundedMantissa (max e (target m e)))

section

variable {s : Sign} {m : Nat} {e : Int} {accuracy : Accuracy}

lemma mantissa_shifted :
    (shifted m e accuracy).mantissa = m / twoTo (target m e - e).toNat := by
  rw [shifted, mantissa_repeat, mantissa_ofMantissaAndAccuracy]

/-- What is rounded has 53 digits. -/
lemma mantissa_shifted_lt : (shifted m e accuracy).mantissa < twoTo 53 := by
  rw [mantissa_shifted]
  refine Nat.div_lt_of_lt_mul ((lt_twoTo_log2 m).trans_le ?_)
  rw [← twoTo_add]
  refine twoTo_le_twoTo ?_
  rw [target_eq]
  omega

/-- With its digits a number is zero or finite. -/
lemma finite_cases (s : Sign) (m : Nat) (e : Int) :
    (if zero : m = 0 then .zero s else .finite s m e (Nat.pos_of_ne_zero zero)) =
      UnpackedFloat.zero s ∨
    ∃ m' h, (if zero : m = 0 then .zero s else .finite s m e (Nat.pos_of_ne_zero zero)) =
      UnpackedFloat.finite s m' e h := by
  by_cases zero : m = 0
  · exact .inl (dif_pos zero)
  · exact .inr ⟨m, Nat.pos_of_ne_zero zero, dif_neg zero⟩

lemma roundWithAccuracy_cases (s : Sign) (m : Nat) (e : Int) (accuracy : Accuracy) :
    roundWithAccuracy Format.binary64 s m e accuracy = .zero s ∨ ∃ m' h,
      roundWithAccuracy Format.binary64 s m e accuracy = .finite s m' (placed m e accuracy) h := by
  have first : e + ↑(target m e - e).toNat = max e (target m e) := by omega
  have last : e + ↑(target m e - e).toNat +
      ↑(target (shifted m e accuracy).roundedMantissa (e + ↑(target m e - e).toNat) -
        (e + ↑(target m e - e).toNat)).toNat = placed m e accuracy := by
    rw [placed, first]
    omega
  rw [← last]
  exact finite_cases s _ _

lemma isFinite_of_placed_le (most : placed m e accuracy ≤ 971) :
    (packed (roundWithAccuracy Format.binary64 s m e accuracy)).isFinite = true := by
  rcases roundWithAccuracy_cases s m e accuracy with zero | ⟨m', h, digits⟩
  · rw [zero]
    exact isFinite_packed_zero s
  · rw [digits]
    exact isFinite_packed most

/-- Rounding makes the exponent higher by one at most. -/
lemma placed_le : placed m e accuracy ≤ max e (target m e) + 1 := by
  have bits : (shifted m e accuracy).roundedMantissa.log2 < 54 := by
    refine log2_lt_of_lt_twoTo (by decide) ?_
    have double : twoTo 54 = 2 * twoTo 53 := twoTo_succ 53
    have le := roundedMantissa_le (shifted m e accuracy)
    have lt := @mantissa_shifted_lt m e accuracy
    have := twoTo_pos 53
    omega
  rw [placed, target_eq (shifted m e accuracy).roundedMantissa, target_eq]
  omega

lemma isFinite_of_target_le (most : e ≤ 970) (low : target m e ≤ 970) :
    (packed (roundWithAccuracy Format.binary64 s m e accuracy)).isFinite = true := by
  have := @placed_le m e accuracy
  exact isFinite_of_placed_le (by omega)

/-- The exponent of what was rounded and written. -/
lemma exponent_le_of_packed_round {s' : Sign} {m' : Nat} {e' : Int} {h'} (most : max e (target m e) ≤ 970)
    (digits : packed (roundWithAccuracy Format.binary64 s m e accuracy) = .finite s' m' e' h') :
    e' ≤ max (max e (target m e) + 1) (-1074) := by
  rcases roundWithAccuracy_cases s m e accuracy with zero | ⟨n, h, rounds⟩
  · rw [zero] at digits
    cases s <;> cases digits
  · rw [rounds] at digits
    have := @placed_le m e accuracy
    have := exponent_le_of_packed (by omega) digits
    omega

/-- The least value that rounds to infinity. -/
def overflow : Nat := twoTo 1024 - twoTo 970

lemma overflow_eq : overflow * twoTo 1074 = (twoTo 54 - 1) * twoTo 2044 := by
  rw [overflow, Nat.sub_mul, Nat.sub_mul, Nat.one_mul, ← twoTo_add, ← twoTo_add, ← twoTo_add]

/-- At the greatest exponent, a number before the end of the range is not rounded up to 54 digits. -/
lemma roundedMantissa_lt_of_lt_overflow (most : e ≤ 970) (high : target m e = 971) (least : -1074 ≤ e)
    (below : m * twoTo (e + 1074).toNat < overflow * twoTo 1074) :
    (shifted m e accuracy).roundedMantissa < twoTo 53 := by
  have digits := @mantissa_shifted_lt m e accuracy
  obtain ⟨n, steps⟩ : ∃ n, (target m e - e).toNat = n + 1 := ⟨(970 - e).toNat, by omega⟩
  have round : (shifted m e accuracy).roundBit = (m / twoTo n % 2 != 0) := by
    rw [shifted, steps, roundBit_repeat, mantissa_ofMantissaAndAccuracy]
  cases bit : m / twoTo n % 2 != 0 with
  | false => rwa [roundedMantissa_eq (round.trans bit)]
  | true =>
    have le := roundedMantissa_le (shifted m e accuracy)
    have half : (shifted m e accuracy).mantissa = m / twoTo n / 2 := by
      rw [mantissa_shifted, steps, Nat.div_div_eq_div_mul, twoTo_succ, Nat.mul_comm]
    have odd : m / twoTo n % 2 ≠ 0 := by simpa using bit
    -- with 54 ones in front the number would not be before the end of the range
    have short : m / twoTo n < twoTo 54 - 1 := by
      refine Nat.div_lt_of_lt_mul (Nat.lt_of_mul_lt_mul_right (a := twoTo (e + 1074).toNat) ?_)
      have power : twoTo n * twoTo (e + 1074).toNat = twoTo 2044 := by
        rw [← twoTo_add, show n + (e + 1074).toNat = 2044 by omega]
      calc m * twoTo (e + 1074).toNat < (twoTo 54 - 1) * twoTo 2044 := below.trans_eq overflow_eq
        _ = twoTo n * (twoTo 54 - 1) * twoTo (e + 1074).toNat := by
          rw [← power]
          ring
    have double : twoTo 54 = 2 * twoTo 53 := twoTo_succ 53
    omega

/-- A number before the end of the range is rounded to a finite one. -/
lemma isFinite_of_lt_overflow (least : -1074 ≤ e) (most : e ≤ 970)
    (below : m * twoTo (e + 1074).toNat < overflow * twoTo 1074) :
    (packed (roundWithAccuracy Format.binary64 s m e accuracy)).isFinite = true := by
  rcases le_or_gt (target m e) 970 with low | high
  · exact isFinite_of_target_le most low
  · have some : m ≠ 0 := by
      rintro rfl
      rw [target_eq, Nat.log2_zero] at high
      omega
    have value : twoTo (m.log2 + (e + 1074).toNat) < twoTo (1024 + 1074) := by
      rw [twoTo_add, twoTo_add]
      calc twoTo m.log2 * twoTo (e + 1074).toNat ≤ m * twoTo (e + 1074).toNat :=
            Nat.mul_le_mul_right _ (twoTo_log2_le some)
        _ < overflow * twoTo 1074 := below
        _ ≤ twoTo 1024 * twoTo 1074 := Nat.mul_le_mul_right _ (Nat.sub_le ..)
    have top := lt_of_twoTo_lt_twoTo value
    have at971 : target m e = 971 := by
      rw [target_eq] at high ⊢
      omega
    have bits := log2_lt_of_lt_twoTo (by decide)
      (@roundedMantissa_lt_of_lt_overflow m e accuracy most at971 least below)
    refine isFinite_of_placed_le ?_
    rw [placed, target_eq (shifted m e accuracy).roundedMantissa, at971]
    omega

lemma isFinite_round (least : -1074 ≤ e) (most : e ≤ 970)
    (below : m * twoTo (e + 1074).toNat < overflow * twoTo 1074) :
    (packed (.round .binary64 s m e)).isFinite = true := by
  have bound : -1074 ≤ target m e := by
    rw [target_eq]
    omega
  refine isFinite_of_lt_overflow ?_ ?_ ?_
  · show -1074 ≤ e - ↑(e - target m e).toNat
    omega
  · show e - ↑(e - target m e).toNat ≤ 970
    omega
  · show m <<< (e - target m e).toNat * twoTo (e - ↑(e - target m e).toNat + 1074).toNat <
      overflow * twoTo 1074
    rwa [shiftLeft_eq_mul_twoTo, Nat.mul_assoc, ← twoTo_add,
      show (e - target m e).toNat + (e - ↑(e - target m e).toNat + 1074).toNat = (e + 1074).toNat by
        omega]

lemma isFinite_normalize {i : Int} (least : -1074 ≤ e) (most : e ≤ 970)
    (below : i.natAbs * twoTo (e + 1074).toNat < overflow * twoTo 1074) :
    (packed (.normalize .binary64 i e s)).isFinite = true := by
  unfold UnpackedFloat.normalize
  split
  next negative =>
    have : i < 0 := compare_lt_iff_lt.1 negative
    exact isFinite_round least most (by rwa [show (-i).toNat = i.natAbs by omega])
  next => exact isFinite_packed_zero s
  next positive =>
    have : 0 < i := compare_gt_iff_gt.1 positive
    exact isFinite_round least most (by rwa [show i.toNat = i.natAbs by omega])

end

/-! ## Counting on -/

lemma natAbs_apply (s : Sign) (n : Nat) : (s.apply ↑n).natAbs = n := by
  cases s with
  | positive => exact Int.natAbs_natCast n
  | negative => exact (Int.natAbs_neg _).trans (Int.natAbs_natCast n)

lemma one_unpack :
    (1.0 : Float).toModel.unpack = .finite .positive (twoTo 52) (-52) (twoTo_pos 52) := rfl

/-- The greatest finite number and one more. -/
lemma greatest_and_one_lt :
    (twoTo 53 - 1) * twoTo 2045 + twoTo 1074 < overflow * twoTo 1074 := by
  have one : twoTo 1074 < twoTo 2044 := twoTo_lt_twoTo (by decide)
  have digits : (twoTo 53 - 1) * 2 + 1 = twoTo 54 - 1 := rfl
  calc (twoTo 53 - 1) * twoTo 2045 + twoTo 1074 <
        (twoTo 53 - 1) * (2 * twoTo 2044) + twoTo 2044 := by
        rw [twoTo_succ 2044]
        exact Nat.add_lt_add_left one _
    _ = ((twoTo 53 - 1) * 2 + 1) * twoTo 2044 := by ring
    _ = overflow * twoTo 1074 := by rw [digits, overflow_eq]

/-! ## Quotients -/

/-- A quotient is computed at an exponent that is low enough, and rounded. -/
lemma exists_div_eq (s₁ s₂ : Sign) (m₁ m₂ : Nat) (e₁ e₂ : Int) (h₁ : 0 < m₁) (h₂ : 0 < m₂) :
    ∃ low accuracy, low ≤ e₁ - e₂ ∧ min (e₁ - e₂) (-1074) ≤ low ∧
      div Format.binary64 (.finite s₁ m₁ e₁ h₁) (.finite s₂ m₂ e₂ h₂) =
        roundWithAccuracy Format.binary64 (s₁ / s₂) (m₁ * twoTo (e₁ - e₂ - low).toNat / m₂) low
          accuracy := by
  let exponent := Format.binary64.targetExponent (totalExponent m₁ e₁ - totalExponent m₂ e₂)
  have bound : -1074 ≤ exponent := le_max_right _ _
  let low := min (e₁ - e₂) exponent
  refine ⟨low, accuracyOfFraction (m₁ <<< (e₁ - e₂ - low).toNat % m₂) m₂, min_le_left _ _, by omega, ?_⟩
  rw [← shiftLeft_eq_mul_twoTo]
  rfl

/-- Not infinite, and with an exponent that is not high. -/
def IsModerate (x : UnpackedFloat) : Prop :=
  x.isFinite = true ∧ ∀ {s m e h}, x = .finite s m e h → m < twoTo 53 ∧ e ≤ 30

lemma isModerate_zero (s : Sign) : IsModerate (packed (.zero s)) := by
  refine ⟨isFinite_packed_zero s, fun digits => ?_⟩
  cases s <;> cases digits

section

variable {x : UnpackedFloat} {s : Sign} {m : Nat} {e : Int} {h : 0 < m}

/-- The exponent of a quotient is about the difference of the exponents. -/
lemma exists_div_target {s₁ : Sign} {m₁ : Nat} {e₁ : Int} {h₁ : 0 < m₁} (short : m₁ < twoTo 53) :
    ∃ n low accuracy, max low (target n low) ≤ max (e₁ - e) (-1074) ∧
      div Format.binary64 (.finite s₁ m₁ e₁ h₁) (.finite s m e h) =
        roundWithAccuracy Format.binary64 (s₁ / s) n low accuracy := by
  obtain ⟨low, accuracy, below, -, quotient⟩ := exists_div_eq s₁ s m₁ m e₁ e h₁ h
  have bits : (m₁ * twoTo (e₁ - e - low).toNat / m).log2 < 53 + (e₁ - e - low).toNat := by
    refine log2_lt_of_lt_twoTo (by omega) ((Nat.div_le_self _ _).trans_lt ?_)
    rw [twoTo_add]
    exact Nat.mul_lt_mul_of_pos_right short (twoTo_pos _)
  refine ⟨_, low, accuracy, ?_, quotient⟩
  rw [target_eq]
  omega

lemma isFinite_div (hx : IsModerate x) (least : -60 ≤ e) :
    (packed (div Format.binary64 x (.finite s m e h))).isFinite = true := by
  obtain ⟨finite, moderate⟩ := hx
  cases x with
  | notANumber | infinity s₁ => cases finite
  | zero s₁ => exact isFinite_packed_zero (s₁ / s)
  | finite s₁ m₁ e₁ h₁ =>
    obtain ⟨short, most⟩ := moderate rfl
    obtain ⟨n, low, accuracy, bound, quotient⟩ := exists_div_target (e := e) short
    rw [quotient]
    exact isFinite_of_target_le (by omega) (by omega)

/-- A quotient by a large number is not larger. -/
lemma isModerate_div (hx : IsModerate x) (large : 1 ≤ e) :
    IsModerate (packed (div Format.binary64 x (.finite s m e h))) := by
  refine ⟨isFinite_div hx (by omega), fun {s' m' e' h'} digits => ?_⟩
  refine ⟨(bounds_of_unpack digits).1, ?_⟩
  obtain ⟨finite, moderate⟩ := hx
  cases x with
  | notANumber | infinity s₁ => cases finite
  | zero s₁ => exact ((isModerate_zero (s₁ / s)).2 digits).2
  | finite s₁ m₁ e₁ h₁ =>
    obtain ⟨short, most⟩ := moderate rfl
    obtain ⟨n, low, accuracy, bound, quotient⟩ := exists_div_target (e := e) short
    rw [quotient] at digits
    have := exponent_le_of_packed_round (by omega) digits
    omega

end

end Magnitude

open Magnitude in
lemma Binary.isFinite_neg {x : Float} (h : x.isFinite = true) : (-x).isFinite = true := by
  show (packed (.neg x.toModel.unpack)).isFinite = true
  have finite : x.toModel.unpack.isFinite = true := h
  cases digits : x.toModel.unpack with
  | notANumber | infinity s =>
    rw [digits] at finite
    cases finite
  | zero s => exact isFinite_packed_zero (-s)
  | finite s m e some => exact isFinite_packed (bounds_of_unpack digits).2.2.1

open Magnitude in
/-- Counting on from a finite number leads to a finite number. -/
theorem Binary.isFinite_add_one {x : Float} (h : x.isFinite = true) : (x + 1.0).isFinite = true := by
  show (packed (.add .binary64 x.toModel.unpack (1.0 : Float).toModel.unpack)).isFinite = true
  rw [one_unpack]
  have finite : x.toModel.unpack.isFinite = true := h
  cases digits : x.toModel.unpack with
  | notANumber | infinity s =>
    rw [digits] at finite
    cases finite
  | zero s =>
    show (packed (.finite .positive (twoTo 52) (-52) (twoTo_pos 52))).isFinite = true
    exact isFinite_packed (by decide)
  | finite s m e some =>
    obtain ⟨short, least, most, -⟩ := bounds_of_unpack digits
    -- both are brought to the lower one of the exponents
    let low := min e (-52)
    show (packed (.normalize .binary64
      (s.apply ↑(m <<< (e - low).toNat) + ↑(twoTo 52 <<< (-52 - low).toNat)) low .positive)).isFinite =
        true
    refine isFinite_normalize (by omega) (by omega) ?_
    have parts := Int.natAbs_add_le (s.apply ↑(m <<< (e - low).toNat))
      ↑(twoTo 52 <<< (-52 - low).toNat)
    rw [natAbs_apply, Int.natAbs_natCast, shiftLeft_eq_mul_twoTo, shiftLeft_eq_mul_twoTo] at parts
    rw [shiftLeft_eq_mul_twoTo, shiftLeft_eq_mul_twoTo]
    calc _ ≤ (m * twoTo (e - low).toNat + twoTo 52 * twoTo (-52 - low).toNat) *
          twoTo (low + 1074).toNat := Nat.mul_le_mul_right _ parts
      _ = m * twoTo (e + 1074).toNat + twoTo 1074 := by
        rw [Nat.add_mul, Nat.mul_assoc, Nat.mul_assoc, ← twoTo_add, ← twoTo_add, ← twoTo_add,
          show (e - low).toNat + (low + 1074).toNat = (e + 1074).toNat by omega,
          show 52 + ((-52 - low).toNat + (low + 1074).toNat) = 1074 by omega]
      _ ≤ (twoTo 53 - 1) * twoTo 2045 + twoTo 1074 :=
        Nat.add_le_add_right
          (Nat.mul_le_mul (Nat.le_sub_one_of_lt short) (twoTo_le_twoTo (by omega))) _
      _ < overflow * twoTo 1074 := greatest_and_one_lt

end Playback
