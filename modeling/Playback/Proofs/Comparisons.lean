import Playback.Proofs.Negation

/-!
# Comparisons

All comparisons by order ask for the same order of two values, and fail where there is none. Texts are
always ordered; numbers are, unless one of them is no number. Nothing is assumed of the order of numbers:
they are compared by their signs, exponents and digits.

Main statement: the results of `<`, `<=`, `>`, `>=`, `==` and `!=` on two values fit together, also when
the values change places (`Value.binary_comparisons`).
-/

namespace Playback

/-! ## Numbers -/

namespace Binary

open Float.Model (UnpackedFloat)

lemma compare_swap (x y : UnpackedFloat) : y.compare x = (x.compare y).map Ordering.swap := by
  cases x with
  | notANumber => cases y <;> rfl
  | infinity s =>
    cases y with
    | infinity s' => cases s <;> cases s' <;> rfl
    | notANumber | zero | finite => cases s <;> rfl
  | zero s =>
    cases y with
    | infinity s' | finite s' => cases s' <;> rfl
    | notANumber | zero => rfl
  | finite s m e =>
    cases y with
    | notANumber => rfl
    | infinity s' => cases s <;> cases s' <;> rfl
    | zero => cases s <;> rfl
    | finite s' m' e' =>
      have swapped : (compare e' e).then (compare m' m) = ((compare e e').then (compare m m')).swap := by
        rw [Ordering.swap_then, Int.compare_swap, Nat.compare_swap]
      cases s with
      | positive =>
        cases s' with
        | positive => exact congrArg some swapped
        | negative => rfl
      | negative =>
        cases s' with
        | positive => rfl
        | negative => exact congrArg (some ∘ Ordering.swap) swapped

/-- Only what is no number has no place in the order. -/
lemma compare_eq_none_iff (x y : UnpackedFloat) :
    x.compare y = none ↔ x.isNaN = true ∨ y.isNaN = true := by
  have neither : ¬ (false = true ∨ false = true) := not_or.2 ⟨Bool.false_ne_true, Bool.false_ne_true⟩
  cases x with
  | notANumber => exact iff_of_true rfl (.inl rfl)
  | infinity s | zero s | finite s =>
    cases y with
    | notANumber => exact iff_of_true (by cases s <;> rfl) (.inr rfl)
    | infinity s' | zero s' | finite s' =>
      cases s <;> cases s' <;> exact iff_of_false (Option.some_ne_none _) neither

variable {x y : Float}

lemma lt_iff : x < y ↔ x.toModel.unpack.compare y.toModel.unpack = some .lt :=
  decide_eq_true_iff.trans beq_iff_eq

lemma beq_iff : (x == y) = true ↔ x.toModel.unpack.compare y.toModel.unpack = some .eq :=
  beq_iff_eq (a := x.toModel.unpack.compare y.toModel.unpack)

end Binary

namespace Value

/-- Numbers have the order that their signs, exponents and digits have. -/
lemma orderNumbers?_eq (x y : Float) :
    orderNumbers? x y = x.toModel.unpack.compare y.toModel.unpack := by
  have swapped := Binary.compare_swap x.toModel.unpack y.toModel.unpack
  unfold orderNumbers?
  simp only [Binary.lt_iff, Binary.beq_iff, swapped]
  cases x.toModel.unpack.compare y.toModel.unpack with
  | none => rfl
  | some o => cases o <;> rfl

lemma orderNumbers?_swap (x y : Float) :
    orderNumbers? y x = (orderNumbers? x y).map Ordering.swap := by
  rw [orderNumbers?_eq, orderNumbers?_eq, Binary.compare_swap]

lemma orderNumbers?_eq_none_iff {x y : Float} :
    orderNumbers? x y = none ↔ x.isNaN = true ∨ y.isNaN = true := by
  rw [orderNumbers?_eq]
  exact Binary.compare_eq_none_iff ..

lemma beq_eq_orderNumbers? (x y : Float) : (x == y) = (orderNumbers? x y == some .eq) := by
  rw [Bool.eq_iff_iff, Binary.beq_iff, orderNumbers?_eq, beq_iff_eq]

/-! ## Texts -/

lemma orderTexts_swap (s t : String) : orderTexts t s = (orderTexts s t).swap := by
  unfold orderTexts
  by_cases less : s < t
  · have differs : t ≠ s := fun same => String.lt_irrefl s (same ▸ less)
    simp [less, String.lt_asymm less, differs]
  · by_cases same : s = t
    · subst same
      rw [if_neg less, if_pos rfl]
      rfl
    · have more : t < s := Classical.not_not.1 fun h =>
        same (String.le_antisymm (String.not_lt.1 h) (String.not_lt.1 less))
      simp [less, same, more]

lemma orderTexts_eq_iff {s t : String} : orderTexts s t = .eq ↔ s = t := by
  unfold orderTexts
  by_cases less : s < t
  · have differs : s ≠ t := fun same => String.lt_irrefl s (same ▸ less)
    simp [less, differs]
  · by_cases same : s = t <;> simp [less, same]

/-! ## Values -/

/-- The order of two values, if they have one. -/
def order? (a b : Value) : Option Ordering :=
  match a.text?, b.text? with
  | some s, some t => some (orderTexts s t)
  | _, _ => a.toNumber?.bind fun x => b.toNumber?.bind fun y => orderNumbers? x y

/-- Two texts are compared as texts, and other values as numbers. -/
lemma texts_or_not (a b : Value) :
    (∃ s t, a.text? = some s ∧ b.text? = some t) ∨ (a.text? = none ∨ b.text? = none) := by
  cases a.text? with
  | none => exact .inr (.inl rfl)
  | some s =>
    cases b.text? with
    | none => exact .inr (.inr rfl)
    | some t => exact .inl ⟨s, t, rfl, rfl⟩

section

variable {a b : Value}

section

variable {s t : String} (ha : a.text? = some s) (hb : b.text? = some t)
include ha hb

lemma order_texts (op : Operator) : order op a b = .ok (orderTexts s t) := by
  rw [order, ha, hb]

lemma order?_texts : order? a b = some (orderTexts s t) := by
  rw [order?, ha, hb]

lemma isEqual_texts : isEqual a b = (s == t) := by
  rw [isEqual, ha, hb]

end

section

variable (h : a.text? = none ∨ b.text? = none)
include h

lemma order_numbers (op : Operator) : order op a b = (do
    let (x, y) ← numbers op a b
    match orderNumbers? x y with
    | some o => .ok o
    | none => .error (.badOperand op.symbol (plainText x ++ " and " ++ plainText y))) := by
  unfold order
  split
  · simp_all
  · rfl

lemma order?_numbers : order? a b =
    a.toNumber?.bind fun x => b.toNumber?.bind fun y => orderNumbers? x y := by
  unfold order?
  split
  · simp_all
  · rfl

lemma isEqual_numbers : isEqual a b =
    match a.toNumber?, b.toNumber? with
    | some x, some y => x == y
    | _, _ => a.display == b.display := by
  unfold isEqual
  split
  · simp_all
  · rfl

end

end

variable (a b : Value)

/-- Every comparison finds the same order. -/
lemma toOption_order (op : Operator) : (order op a b).toOption = order? a b := by
  rcases texts_or_not a b with ⟨s, t, ha, hb⟩ | h
  · rw [order_texts ha hb, order?_texts ha hb]
    rfl
  · rw [order_numbers h, order?_numbers h, numbers]
    cases a.toNumber? with
    | none => rfl
    | some x =>
      cases b.toNumber? with
      | none => rfl
      | some y =>
        simp only [Option.bind_some, bind, Except.bind]
        cases orderNumbers? x y <;> rfl

lemma order_eq_ok_iff {op : Operator} {o : Ordering} :
    order op a b = .ok o ↔ order? a b = some o := by
  rw [← toOption_order a b op]
  cases order op a b <;> simp [Except.toOption]

lemma order?_swap : order? b a = (order? a b).map Ordering.swap := by
  rcases texts_or_not a b with ⟨s, t, ha, hb⟩ | h
  · rw [order?_texts ha hb, order?_texts hb ha, orderTexts_swap]
    rfl
  · rw [order?_numbers h, order?_numbers h.symm]
    cases a.toNumber? with
    | none => cases b.toNumber? <;> rfl
    | some x =>
      cases b.toNumber? with
      | none => rfl
      | some y => exact orderNumbers?_swap x y

/-- Where two values have an order, this tells whether they are equal. -/
lemma isEqual_of_order? {o : Ordering} (h : order? a b = some o) : isEqual a b = (o == .eq) := by
  rcases texts_or_not a b with ⟨s, t, ha, hb⟩ | hnot
  · rw [order?_texts ha hb, Option.some.injEq] at h
    rw [isEqual_texts ha hb, ← h, Bool.eq_iff_iff, beq_iff_eq, beq_iff_eq, orderTexts_eq_iff]
  · rw [order?_numbers hnot] at h
    obtain ⟨x, hx, h⟩ := Option.bind_eq_some_iff.1 h
    obtain ⟨y, hy, h⟩ := Option.bind_eq_some_iff.1 h
    rw [isEqual_numbers hnot, hx, hy]
    dsimp only
    rw [beq_eq_orderNumbers?, h]
    rfl

/-- Also values that have no order are equal the other way around. -/
lemma isEqual_comm : isEqual b a = isEqual a b := by
  rcases texts_or_not a b with ⟨s, t, ha, hb⟩ | h
  · rw [isEqual_texts ha hb, isEqual_texts hb ha, Bool.beq_comm]
  · rw [isEqual_numbers h, isEqual_numbers h.symm]
    cases a.toNumber? with
    | none => cases b.toNumber? <;> exact Bool.beq_comm
    | some x =>
      cases b.toNumber? with
      | none => exact Bool.beq_comm
      | some y =>
        dsimp only
        rw [beq_eq_orderNumbers?, beq_eq_orderNumbers?, orderNumbers?_swap]
        cases orderNumbers? x y with
        | none => rfl
        | some o => cases o <;> rfl

end Value

/-! ## Operators -/

/-- The comparison holds for two values in this order. -/
def Operator.accepts : Operator → Ordering → Bool
  | less, o => o.isLT
  | lessEq, o => o.isLE
  | greater, o => o.isGT
  | greaterEq, o => o.isGE
  | _, _ => false

namespace Value

variable {op : Operator} (ordering : op.isOrdering = true) (a b : Value)
include ordering

lemma binary_ordering : binary op a b = (order op a b).map fun o => truth (op.accepts o) := by
  cases op <;> cases ordering <;> rfl

lemma binary_of_order? {o : Ordering} (h : order? a b = some o) :
    binary op a b = .ok (truth (op.accepts o)) := by
  rw [binary_ordering ordering, (order_eq_ok_iff a b).2 h]
  rfl

/-- A comparison has a result where the values have an order. -/
lemma isOk_binary : (binary op a b).isOk = (order? a b).isSome := by
  rw [binary_ordering ordering, ← toOption_order a b op]
  cases order op a b <;> rfl

omit ordering

/-- The four comparisons by order all have results, or all have none, and it is the same when the values
change places. Where they have results, exactly one of `<`, `==` and `>` holds, `<=` and `>=` say whether
one of two of them does, and `>` is `<` the other way around. Always, `!=` is the opposite of `==`, which
is the same both ways. -/
theorem binary_comparisons :
    (∀ op op' : Operator, op.isOrdering = true → op'.isOrdering = true →
      (binary op a b).isOk = (binary op' a b).isOk ∧ (binary op a b).isOk = (binary op' b a).isOk) ∧
    (∀ (op : Operator) (v : Value), op.isOrdering = true → binary op a b = .ok v →
      ∃ less equal greater : Bool, [less, equal, greater].count true = 1 ∧
        binary .less a b = .ok (truth less) ∧ binary .equal a b = .ok (truth equal) ∧
        binary .greater a b = .ok (truth greater) ∧
        binary .lessEq a b = .ok (truth (less || equal)) ∧
        binary .greaterEq a b = .ok (truth (greater || equal)) ∧
        binary .greater b a = .ok (truth less) ∧ binary .less b a = .ok (truth greater)) ∧
    ∃ equal : Bool, binary .equal a b = .ok (truth equal) ∧
      binary .notEqual a b = .ok (truth !equal) ∧ binary .equal b a = .ok (truth equal) := by
  refine ⟨fun op op' ordering ordering' => ?_, fun op v ordering h => ?_, isEqual a b, rfl, rfl, ?_⟩
  · rw [isOk_binary ordering, isOk_binary ordering', isOk_binary ordering', order?_swap a b,
      Option.isSome_map]
    exact ⟨rfl, rfl⟩
  · have ordered : (order? a b).isSome = true := by
      rw [← isOk_binary ordering, h]
      rfl
    obtain ⟨o, ho⟩ := Option.isSome_iff_exists.1 ordered
    have swapped : order? b a = some o.swap := by rw [order?_swap, ho]; rfl
    have equal : binary .equal a b = .ok (truth (o == .eq)) :=
      congrArg (Except.ok ∘ truth) (isEqual_of_order? a b ho)
    refine ⟨o.isLT, o == .eq, o.isGT, ?_, binary_of_order? rfl a b ho, equal,
      binary_of_order? rfl a b ho, ?_, ?_, ?_, ?_⟩
    · cases o <;> rfl
    · rw [binary_of_order? rfl a b ho]
      cases o <;> rfl
    · rw [binary_of_order? rfl a b ho]
      cases o <;> rfl
    · rw [binary_of_order? rfl b a swapped]
      cases o <;> rfl
    · rw [binary_of_order? rfl b a swapped]
      cases o <;> rfl
  · exact congrArg (Except.ok ∘ truth) (isEqual_comm a b)

end Value

/-- A text that was cut out and writes a number is compared with a number; another text has no order
beside it. -/
theorem Value.binary_comparisons_cutOut :
    let cut := slice ⟨"word", 1, 3, "10"⟩
    let nine := number 9
    (∃ less equal greater : Bool, [less, equal, greater].count true = 1 ∧
      binary .less cut nine = .ok (truth less) ∧ binary .equal cut nine = .ok (truth equal) ∧
      binary .greater cut nine = .ok (truth greater) ∧ binary .less nine cut = .ok (truth greater)) ∧
    binary .greater cut nine = .ok (truth true) ∧
    (binary .less (text "ten") nine).isOk = false ∧ (binary .greaterEq nine (text "ten")).isOk = false := by
  intro cut nine
  have holds : binary .greater cut nine = .ok (truth true) := by rfl
  have fails : (binary .less (text "ten") nine).isOk = false := by rfl
  obtain ⟨-, both, -⟩ := binary_comparisons cut nine
  obtain ⟨alike, -⟩ := binary_comparisons (text "ten") nine
  obtain ⟨less, equal, greater, one, hless, hequal, hgreater, -, -, -, swapped⟩ :=
    both .greater (truth true) rfl holds
  refine ⟨⟨less, equal, greater, one, hless, hequal, hgreater, swapped⟩, holds, fails, ?_⟩
  rw [← (alike .less .greaterEq rfl rfl).2, fails]

end Playback
