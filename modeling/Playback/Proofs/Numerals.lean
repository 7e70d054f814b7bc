import Playback.Number.Numeral
import Mathlib.Tactic.Lemma

/-!
# Reading numerals back

The characters of a numeral are read back as the numeral that was written, so that they tell its sign,
its digits, the place of its point and its exponent.

Main statements: reading what was written (`Numeral.ofChars?_chars`), and that two numerals which are
written alike are the same (`Numeral.chars_injective`).
-/

namespace Playback

section

variable {p : Char → Bool} {cs rest : List Char}

lemma takeWhile_run (h : ∀ c ∈ cs, p c = true) (stops : rest.takeWhile p = []) :
    (cs ++ rest).takeWhile p = cs := by
  rw [List.takeWhile_append_of_pos h, stops, List.append_nil]

/-- Characters of a kind are taken off up to where they end. -/
lemma dropWhile_run (h : ∀ c ∈ cs, p c = true) (stops : rest.takeWhile p = []) :
    (cs ++ rest).dropWhile p = rest := by
  have whole := List.takeWhile_append_dropWhile (p := p) (l := rest)
  rw [stops, List.nil_append] at whole
  rw [List.dropWhile_append_of_pos h, whole]

end

namespace Numeral

/-- The parts that the characters of the numeral fall into. -/
def parts (n : Numeral) : Parts where
  sign := if n.negative then some '-' else none
  whole := n.digits.take (n.digits.length - n.places)
  fraction := if n.places = 0 then none else some (n.digits.drop (n.digits.length - n.places))
  exponent := n.exponent.map fun e => (some (if e < 0 then '-' else '+'), Nat.toDigits 10 e.natAbs)

variable {n : Numeral}

/-! ## Digits -/

lemma isDigit_of_mem_toDigits {m : Nat} {c : Char} (h : c ∈ Nat.toDigits 10 m) : c.isDigit = true :=
  Nat.isDigit_of_mem_toDigits (by decide) (by decide) h

lemma isDigit_of_mem_digits {c : Char} (h : c ∈ n.digits) : c.isDigit = true := by
  rcases List.mem_append.1 h with h | h
  · rw [List.eq_of_mem_replicate h]
    rfl
  · exact isDigit_of_mem_toDigits h

lemma places_lt_length_digits (n : Numeral) : n.places < n.digits.length := by
  rw [digits, List.length_append, List.length_replicate]
  omega

lemma ofDigitChars_digits (n : Numeral) : Nat.ofDigitChars 10 n.digits 0 = n.mantissa := by
  rw [digits, Nat.ofDigitChars_append, Nat.ofDigitChars_replicate_zero, Nat.mul_zero,
    Nat.ofDigitChars_ten_toDigits]

/-- A digit stands before the point. -/
lemma exists_whole (n : Numeral) : ∃ c cs, n.parts.whole = c :: cs ∧ c.isDigit = true := by
  have := places_lt_length_digits n
  cases h : n.parts.whole with
  | nil =>
    have hlen := congrArg List.length h
    simp only [parts, List.length_take, List.length_nil] at hlen
    omega
  | cons c cs =>
    have mem : c ∈ n.parts.whole := by rw [h]; exact List.mem_cons_self
    exact ⟨c, cs, rfl, isDigit_of_mem_digits (List.mem_of_mem_take mem)⟩

/-! ## Parts -/

lemma takeSign_digit {c : Char} (h : c.isDigit = true) (cs : List Char) :
    takeSign (c :: cs) = (none, c :: cs) := by
  have notPlus : c ≠ '+' := fun heq => absurd (heq ▸ h) (by decide)
  have notMinus : c ≠ '-' := fun heq => absurd (heq ▸ h) (by decide)
  simp [takeSign, notPlus, notMinus]

/-- What follows the digits before the point. -/
def tail (n : Numeral) : List Char :=
  (if n.places = 0 then [] else '.' :: n.digits.drop (n.digits.length - n.places)) ++
    exponentChars n.exponent

lemma takeSign_chars (n : Numeral) : takeSign n.chars = (n.parts.sign, n.parts.whole ++ n.tail) := by
  have hchars : n.chars = (if n.negative then ['-'] else []) ++ (n.parts.whole ++ n.tail) := by
    simp only [chars, parts, tail, List.append_assoc]
  rw [hchars]
  cases hneg : n.negative with
  | true => simp [takeSign, parts, hneg]
  | false =>
    obtain ⟨c, cs, hwhole, digit⟩ := exists_whole n
    have hsign : n.parts.sign = none := by simp [parts, hneg]
    simp [hsign, hwhole, takeSign_digit digit]

lemma takeWhile_exponentChars (e : Option Int) : (exponentChars e).takeWhile Char.isDigit = [] := by
  cases e <;> rfl

lemma takeWhile_tail (n : Numeral) : n.tail.takeWhile Char.isDigit = [] := by
  rw [tail]
  split
  · exact takeWhile_exponentChars n.exponent
  · rfl

lemma takeFraction_tail (n : Numeral) :
    takeFraction n.tail = (n.parts.fraction, exponentChars n.exponent) := by
  rw [tail, parts]
  split
  · cases n.exponent <;> rfl
  · have digits : ∀ c ∈ n.digits.drop (n.digits.length - n.places), c.isDigit = true :=
      fun c mem => isDigit_of_mem_digits (List.mem_of_mem_drop mem)
    have stops := takeWhile_exponentChars n.exponent
    rw [List.cons_append, takeFraction, takeWhile_run digits stops, dropWhile_run digits stops]

lemma exponentParts?_exponentChars (n : Numeral) :
    exponentParts? (exponentChars n.exponent) = some n.parts.exponent := by
  rw [parts]
  cases n.exponent with
  | none => rfl
  | some e =>
    have sign : takeSign ((if e < 0 then '-' else '+') :: Nat.toDigits 10 e.natAbs) =
        (some (if e < 0 then '-' else '+'), Nat.toDigits 10 e.natAbs) := by
      split <;> rfl
    have digits : Nat.toDigits 10 e.natAbs ≠ [] ∧ (Nat.toDigits 10 e.natAbs).all Char.isDigit :=
      ⟨Nat.toDigits_ne_nil, List.all_eq_true.2 fun c mem => isDigit_of_mem_toDigits mem⟩
    rw [exponentChars, exponentParts?, if_pos (.inl rfl), sign]
    exact if_pos digits

/-- The characters of a numeral fall into its parts. -/
lemma partsOfChars?_chars (n : Numeral) : Parts.ofChars? n.chars = some n.parts := by
  have digits : ∀ c ∈ n.parts.whole, c.isDigit = true :=
    fun c mem => isDigit_of_mem_digits (List.mem_of_mem_take mem)
  rw [Parts.ofChars?, takeSign_chars]
  dsimp only
  rw [dropWhile_run digits n.takeWhile_tail, takeWhile_run digits n.takeWhile_tail,
    takeFraction_tail]
  dsimp only
  rw [exponentParts?_exponentChars]
  rfl

lemma numeral_parts (n : Numeral) : n.parts.numeral = n := by
  have hdigits : n.parts.whole ++ n.parts.fraction.getD [] = n.digits := by
    by_cases h : n.places = 0
    · simp [parts, h]
    · simp [parts, h]
  have hplaces : (n.parts.fraction.getD []).length = n.places := by
    have := places_lt_length_digits n
    by_cases h : n.places = 0
    · simp [parts, h]
    · simp only [parts, if_neg h, Option.getD_some, List.length_drop]
      omega
  have hmantissa : n.parts.numeral.mantissa = n.mantissa := by
    rw [Parts.numeral, hdigits, ofDigitChars_digits]
  have hnegative : n.parts.numeral.negative = n.negative := by
    rw [Parts.numeral, parts]
    cases n.negative <;> rfl
  have hexponent : n.parts.numeral.exponent = n.exponent := by
    rw [Parts.numeral, parts]
    cases n.exponent with
    | none => rfl
    | some e =>
      simp only [Option.map_some, Nat.ofDigitChars_ten_toDigits, Option.some.injEq]
      by_cases h : e < 0
      · simp only [if_pos h, if_true]
        omega
      · simp only [if_neg h]
        rw [if_neg (by decide)]
        omega
  cases n with
  | mk negative mantissa places exponent =>
    exact congr (congr (congr (congrArg mk hnegative) hmantissa) hplaces) hexponent

/-- A numeral is read as it was written, by every grammar that allows its parts. -/
theorem ofChars?_chars {grammar : Parts → Bool} (h : grammar n.parts = true) :
    ofChars? grammar n.chars = some n := by
  rw [ofChars?, partsOfChars?_chars]
  show (if grammar n.parts then some n.parts.numeral else none) = some n
  rw [if_pos h, numeral_parts]

/-- Numerals that are written alike are the same. -/
theorem chars_injective {n n' : Numeral} (h : n.chars = n'.chars) : n = n' := by
  have hparts : some n.parts = some n'.parts := by
    rw [← partsOfChars?_chars, ← partsOfChars?_chars, h]
  rw [← numeral_parts n, ← numeral_parts n', Option.some.inj hparts]

/-! ## The strict grammar -/

lemma head?_toDigits : ∀ m : Nat, 0 < m → (Nat.toDigits 10 m).head? ≠ some '0'
  | m, pos => by
    rcases Nat.lt_or_ge m 10 with small | large
    · rw [Nat.toDigits_of_lt_base small]
      have other : ∀ d < 10, 0 < d → [Nat.digitChar d].head? ≠ some '0' := by decide
      exact other m small pos
    · have before := head?_toDigits (m / 10) (by omega)
      rw [Nat.toDigits_of_base_le (by decide) large]
      cases h : Nat.toDigits 10 (m / 10) with
      | nil => exact absurd h Nat.toDigits_ne_nil
      | cons c cs =>
        rw [h] at before
        exact before

/-- The digits before the point are a zero alone, or do not begin with a zero. -/
lemma whole_cases (n : Numeral) : n.parts.whole = ['0'] ∨ n.parts.whole.head? ≠ some '0' := by
  show n.digits.take (n.digits.length - n.places) = ['0'] ∨
    (n.digits.take (n.digits.length - n.places)).head? ≠ some '0'
  have some := Nat.length_toDigits_pos (b := 10) (n := n.mantissa)
  rcases Nat.lt_or_ge n.places (Nat.toDigits 10 n.mantissa).length with long | short
  · have none : n.places + 1 - (Nat.toDigits 10 n.mantissa).length = 0 := by omega
    rw [digits, none, List.replicate_zero, List.nil_append]
    rcases Nat.eq_zero_or_pos n.mantissa with zero | pos
    · rw [zero, Nat.toDigits_zero, List.length_singleton] at long
      have places : n.places = 0 := by omega
      rw [zero, Nat.toDigits_zero, places]
      exact .inl rfl
    · rw [List.head?_take, if_neg (by omega)]
      exact .inr (head?_toDigits _ pos)
  · obtain ⟨k, hk⟩ : ∃ k, n.places + 1 - (Nat.toDigits 10 n.mantissa).length = k + 1 :=
      ⟨n.places - (Nat.toDigits 10 n.mantissa).length, by omega⟩
    have length : n.digits.length - n.places = 1 := by
      rw [digits, List.length_append, List.length_replicate]
      omega
    rw [length, digits, hk]
    exact .inl rfl

/-- Every numeral is written by the strict grammar. -/
lemma strict_parts (n : Numeral) : n.parts.strict = true := by
  have sign : n.parts.sign ≠ some '+' := by
    show (if n.negative then some '-' else none) ≠ some '+'
    split <;> decide
  have fraction : n.parts.fraction ≠ some [] := by
    show (if n.places = 0 then none else some (n.digits.drop (n.digits.length - n.places))) ≠ some []
    have := places_lt_length_digits n
    split
    · decide
    · intro h
      have length := congrArg List.length (Option.some.inj h)
      rw [List.length_drop, List.length_nil] at length
      omega
  obtain ⟨c, cs, hwhole, -⟩ := exists_whole n
  have whole := whole_cases n
  rw [hwhole] at whole
  simp [Parts.strict, sign, fraction, hwhole]
  simpa using whole

/-- A numeral has digits, signs, a point and the mark of the exponent. -/
lemma mem_chars {c : Char} (mem : c ∈ n.chars) : c.isDigit = true ∨ c ∈ ['-', '+', '.', 'e'] := by
  have sign : c ∈ (if n.negative then ['-'] else []) → c ∈ ['-', '+', '.', 'e'] := by
    split
    · intro mem
      rw [List.mem_singleton.1 mem]
      decide
    · exact nofun
  rcases List.mem_append.1 mem with mem | mem
  · rcases List.mem_append.1 mem with mem | mem
    · rcases List.mem_append.1 mem with mem | mem
      · exact .inr (sign mem)
      · exact .inl (isDigit_of_mem_digits (List.mem_of_mem_take mem))
    · split at mem
      · cases mem
      · rcases List.mem_cons.1 mem with rfl | mem
        · exact .inr (by decide)
        · exact .inl (isDigit_of_mem_digits (List.mem_of_mem_drop mem))
  · unfold exponentChars at mem
    split at mem
    · cases mem
    · rcases List.mem_cons.1 mem with rfl | mem
      · exact .inr (by decide)
      rcases List.mem_cons.1 mem with rfl | mem
      · split <;> exact .inr (by decide)
      · exact .inl (isDigit_of_mem_toDigits mem)

end Numeral

end Playback
