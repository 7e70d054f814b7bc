import Playback.Proofs.Conversion

/-!
# Ranges of JSON numbers

The decimal that a finite number is written by rounds to it, so it is less than the upper end of its
interval, and its digits fit a word of 64 bits. For all but the five greatest numbers this end is within
the limit up to which products are finite, and the products for the five are computed.

Main statement: in a document, a finite number is a numeral that is not refused when it is read, and any
other is `null` (`numberJson_cases`).
-/

namespace Playback

open Magnitude (limit)

namespace Numeral

/-- A whole number that fits a word is not refused. -/
lemma isInRange_ofInt {i : Int} (h : i.natAbs < UInt64.size) : (ofInt i).isInRange = true := by
  have within : i.natAbs * tenTo 0 ≤ limit := by
    calc i.natAbs * 1 ≤ 1 * twoTo 64 := by rw [Nat.mul_one, Nat.one_mul]; exact h.le
      _ ≤ limit := Nat.mul_le_mul (by decide) (twoTo_le_twoTo (by decide))
  exact isInRange_of_scaled? h rfl (@isSome_scaled?_natural _ 0 h within)

end Numeral

namespace Binary

/-- The rank of the greatest finite number. -/
def greatest : Nat := twoTo 52 * 2046 + (twoTo 52 - 1)

lemma greatest_eq : greatest = 9218868437227405311 := rfl

lemma top_greatest_sub : top (greatest - 5) = limit * twoTo 1076 := by
  have digits : 4 * (twoTo 52 + (twoTo 52 - 6)) + 2 = twoTo 55 - 22 := rfl
  rw [show greatest - 5 = twoTo 52 * (2045 + 1) + (twoTo 52 - 6) from rfl, top_succ (by decide), digits,
    limit, Nat.mul_assoc, ← twoTo_add]

lemma le_greatest {n : Nat} (h : doublings n < 2046) : n ≤ greatest := by
  rw [doublings, twoTo_52] at h
  rw [greatest_eq]
  omega

/-- A decimal that rounds to none of the five greatest numbers is within the limit. -/
lemma Rounds.le_limit {n mantissa places : Nat} (rounds : Rounds n mantissa places)
    (below : n ≤ greatest - 5) : mantissa ≤ limit * tenTo places := by
  refine Nat.le_of_mul_le_mul_right ?_ (twoTo_pos 1076)
  calc mantissa * twoTo 1076 ≤ top n * tenTo places := rounds.le.2
    _ ≤ top (greatest - 5) * tenTo places := Nat.mul_le_mul_right _ (top_strictMono.monotone below)
    _ = limit * tenTo places * twoTo 1076 := by
      rw [top_greatest_sub]
      ring

end Binary

namespace Shortest

open Binary Numeral

lemma isSome_scaled?_greatest : ((List.range 5).map (greatest - ·)).all (fun n =>
    let (c, k) := digits (ofRank n) documentStyle.tie
    (scaled? c.toUInt64.toFloat k).isSome) = true := by
  decide +kernel

/-- The digits of a finite number are not refused. -/
lemma isSome_scaled?_digits {n : Nat} (h : doublings n < 2046) :
    (scaled? (digits (ofRank n) documentStyle.tie).1.toUInt64.toFloat
      (digits (ofRank n) documentStyle.tie).2).isSome = true := by
  rcases Nat.lt_or_ge (greatest - 5) n with last | below
  · have listed : n ∈ (List.range 5).map (greatest - ·) := by
      have := le_greatest h
      have := greatest_eq
      exact List.mem_map.2 ⟨greatest - n, List.mem_range.2 (by omega), by omega⟩
    exact List.all_eq_true.1 isSome_scaled?_greatest n listed
  · have word := digits_lt h documentStyle.tie
    have within := (rounds_digits h documentStyle.tie).le_limit below
    generalize digits (ofRank n) documentStyle.tie = found at word within ⊢
    rcases lt_or_ge found.2 0 with negative | natural
    · exact isSome_scaled?_neg negative
    · obtain ⟨k, hk⟩ := Int.eq_ofNat_of_zero_le natural
      rw [hk] at within ⊢
      have one : tenTo (-(k : Int)).toNat = 1 := by rw [Int.toNat_of_nonpos (by omega)]; rfl
      rw [one, Nat.mul_one, Int.toNat_natCast] at within
      exact isSome_scaled?_natural word within

end Shortest

/-- However digits that fit a word are laid out, the numeral is not refused if they are not. -/
lemma isInRange_layout (negative : Bool) {count : Nat} {power : Int} (word : count < UInt64.size)
    (scales : (Numeral.scaled? count.toUInt64.toFloat power).isSome = true) :
    (documentStyle.layout negative count power).isInRange = true := by
  have some := Nat.length_toDigits_pos (b := 10) (n := count)
  have short := (Nat.length_toDigits_le_iff (n := count) (by decide) some).1 (le_refl _)
  unfold Style.layout
  dsimp only
  split
  next positional =>
    split
    next below =>
      have power' : (0 : Int) - (power.natAbs : Nat) = power := by omega
      exact Numeral.isInRange_of_scaled? word power' scales
    next above =>
      -- a whole number of sixteen digits at most, and the zero behind the point
      rw [if_pos (show documentStyle.keepsPoint = true from rfl)]
      have sixteen : power + (Nat.toDigits 10 count).length - 1 ≤ 15 :=
        of_decide_eq_true (Bool.and_eq_true_iff.1 positional).2
      have bound : count * tenTo (power.natAbs + 1) < UInt64.size := by
        calc count * tenTo (power.natAbs + 1) ≤
              tenTo (Nat.toDigits 10 count).length * tenTo (power.natAbs + 1) :=
              Nat.mul_le_mul_right _ short.le
          _ = tenTo ((Nat.toDigits 10 count).length + (power.natAbs + 1)) := (Nat.pow_add ..).symm
          _ ≤ tenTo 17 := Shortest.tenTo_le_tenTo (by omega)
          _ < UInt64.size := by decide
      exact Numeral.isInRange_of_scaled? bound rfl
        (Numeral.isSome_scaled?_neg (show (0 : Int) - (1 : Nat) < 0 by decide))
  · have power' : (power + (Nat.toDigits 10 count).length - 1 : Int) -
        ((Nat.toDigits 10 count).length - 1 : Nat) = power := by omega
    exact Numeral.isInRange_of_scaled? word power' scales

/-- The numeral that a finite number is written by in a document is not refused. -/
lemma isInRange_documentStyle {x : Float} (h : x.isFinite = true) :
    (documentStyle.numeral x).isInRange = true := by
  rw [Style.numeral]
  exact isInRange_layout _ (Shortest.digits_lt (Binary.doublings_lt h) documentStyle.tie)
    (Shortest.isSome_scaled?_digits (Binary.doublings_lt h))

lemma Binary.natAbs_lt_of_exactInt? {x : Float} {i : Int} (h : exactInt? x = some i) :
    x.isFinite = true ∧ i.natAbs < exactLimit := by
  unfold exactInt? at h
  dsimp only at h
  split at h
  next exact =>
    simp only [Bool.and_eq_true, decide_eq_true_eq] at exact
    cases h
    rw [natAbs_withSign]
    exact ⟨exact.1.1, exact.2⟩
  next => cases h

/-- In a document, a finite number is a numeral that is not refused when it is read, and any other is
`null`. -/
theorem numberJson_cases (x : Float) :
    (x.isFinite = true ∧ ∃ n, numberJson x = .number n ∧ n.isInRange = true) ∨
      x.isFinite = false ∧ numberJson x = .null := by
  unfold numberJson
  cases exact : Binary.exactInt? x with
  | some i =>
    obtain ⟨finite, short⟩ := Binary.natAbs_lt_of_exactInt? exact
    have word : Binary.exactLimit < UInt64.size := by decide
    exact .inl ⟨finite, _, rfl, Numeral.isInRange_ofInt (short.trans word)⟩
  | none =>
    cases finite : x.isFinite with
    | true => exact .inl ⟨rfl, _, rfl, isInRange_documentStyle finite⟩
    | false => exact .inr ⟨rfl, rfl⟩

/-- The greatest number is not refused, but a decimal that rounds to it is. -/
example : Numeral.isInRange ⟨false, 17976931348623157, 16, some 308⟩ = true ∧
    Numeral.isInRange ⟨false, 17976931348623158, 16, some 308⟩ = false := by
  decide +kernel

end Playback
