import Playback.Condition
import Playback.Evaluation
import Mathlib.Tactic.Lemma

/-!
# Negated conditions

`Node.negated` is compared with `Node.holds`. In every store the negated condition holds exactly
when the condition itself does not, and where one of them meets a fault, so does the other. The two
faults are the same, but for the symbol of an ordering comparison: `1 < "a"` is about `<`, and its
negation `1 >= "a"` is about `>=`.

The cases follow the recursion of `Node.negated`; what the operators do is said by a lemma for each. Apart
from the faults, the results are opposite (`Node.toOption_holds_negated`).
-/

namespace Playback

/-- The operator compares two values by their order. -/
def Operator.isOrdering : Operator → Bool
  | greater | less | greaterEq | lessEq => true
  | _ => false

/-- The second fault is the first one, or the one of the flipped comparison about the same value. -/
inductive Fault.Mirrors : Fault → Fault → Prop where
  | same (cause : Fault) : Mirrors cause cause
  | flipped {op flip : Operator} (ordering : op.isOrdering = true)
      (flips : op.flipped? = some flip) (value : String) :
      Mirrors (.badOperand op.symbol value) (.badOperand flip.symbol value)

/-- Two checks with opposite results, or with mirrored faults. -/
inductive Opposed : Except Fault Bool → Except Fault Bool → Prop where
  | result (b : Bool) : Opposed (.ok b) (.ok !b)
  | fault {cause mirrored : Fault} (mirrors : cause.Mirrors mirrored) :
      Opposed (.error cause) (.error mirrored)

namespace Opposed

lemma map_not (check : Except Fault Bool) : Opposed check (check.map (!·)) := by
  cases check with
  | ok b => exact .result b
  | error cause => exact .fault (.same cause)

lemma of_map_not (check : Except Fault Bool) : Opposed (check.map (!·)) check := by
  cases check with
  | ok b => simpa [Except.map] using Opposed.result !b
  | error cause => exact .fault (.same cause)

/-- Where one of the checks has a result, the other has the opposite one. -/
lemma toOption_eq {x y : Except Fault Bool} (h : Opposed x y) : y.toOption = x.toOption.map (!·) := by
  cases h <;> rfl

/-- Two checks in a row, both of which are made. -/
lemma combine {left left' right right' : Except Fault Bool} {f g : Bool → Bool → Bool}
    (hl : Opposed left left') (hr : Opposed right right') (hfg : ∀ a b, g (!a) (!b) = !(f a b)) :
    Opposed (do let a ← left; let b ← right; pure (f a b))
      (do let a ← left'; let b ← right'; pure (g a b)) := by
  cases hl with
  | fault mirrors => exact .fault mirrors
  | result a =>
    cases hr with
    | fault mirrors => exact .fault mirrors
    | result b =>
      show Opposed (.ok (f a b)) (.ok (g (!a) (!b)))
      rw [hfg]
      exact .result (f a b)

end Opposed

/-! ## Comparisons -/

namespace Value

/-- Two comparisons by order find the same order, or fail at the same value. -/
lemma order_symbol (op op' : Operator) (a b : Value) :
    (∃ o, order op a b = .ok o ∧ order op' a b = .ok o) ∨
      ∃ value, order op a b = .error (.badOperand op.symbol value) ∧
        order op' a b = .error (.badOperand op'.symbol value) := by
  unfold order
  split
  · exact .inl ⟨_, rfl, rfl⟩
  · unfold numbers
    cases a.toNumber? with
    | none => exact .inr ⟨_, rfl, rfl⟩
    | some x =>
      cases b.toNumber? with
      | none => exact .inr ⟨_, rfl, rfl⟩
      | some y =>
        simp only [bind, Except.bind]
        cases orderNumbers? x y with
        | none => exact .inr ⟨_, rfl, rfl⟩
        | some o => exact .inl ⟨o, rfl, rfl⟩

lemma compare_opposed {op flip : Operator} {test test' : Ordering → Bool}
    (ordering : op.isOrdering = true) (flips : op.flipped? = some flip)
    (htest : ∀ o, test' o = !(test o)) (a b : Value) :
    Opposed ((compare op test a b).map isTruthy) ((compare flip test' a b).map isTruthy) := by
  unfold compare
  rcases order_symbol op flip a b with ⟨o, h, h'⟩ | ⟨value, h, h'⟩
  · rw [h, h']
    show Opposed (.ok (test o)) (.ok (test' o))
    rw [htest]
    exact .result (test o)
  · rw [h, h']
    exact .fault (.flipped ordering flips value)

/-- A comparison of two values is opposed to the flipped one. -/
lemma binary_flipped {op flip : Operator} (flips : op.flipped? = some flip) (a b : Value) :
    Opposed ((binary op a b).map isTruthy) ((binary flip a b).map isTruthy) := by
  cases op <;> cases flips
  case greater => exact compare_opposed rfl rfl (by decide) a b
  case less => exact compare_opposed rfl rfl (by decide) a b
  case greaterEq => exact compare_opposed rfl rfl (by decide) a b
  case lessEq => exact compare_opposed rfl rfl (by decide) a b
  case equal => exact .result (isEqual a b)
  case notEqual => simpa [binary, isTruthy, Except.map] using Opposed.result !(isEqual a b)

end Value

/-! ## Conditions -/

namespace Node

@[simp] lemma evaluate_atLine (store : Store) (n : Node) (line : Option UInt32) :
    (n.atLine line).evaluate store = n.evaluate store := by
  cases n with
  | expression _ left op right => cases left <;> cases right <;> cases op <;> rfl
  | _ => rfl

@[simp] lemma holds_atLine (store : Store) (n : Node) (line : Option UInt32) :
    (n.atLine line).holds store = n.holds store := by
  simp [holds]

lemma holds_not_right (store : Store) (line : Option UInt32) (left : Option Node) (operand : Node) :
    (expression line left .not (some operand)).holds store = (operand.holds store).map (!·) := by
  rw [holds, evaluate_not_right, holds]
  cases operand.evaluate store <;> rfl

lemma holds_not_left (store : Store) (line : Option UInt32) (operand : Node) :
    (expression line (some operand) .not none).holds store = (operand.holds store).map (!·) := by
  rw [holds, evaluate_not_left, holds]
  cases operand.evaluate store <;> rfl

lemma holds_wrapped (store : Store) (n : Node) :
    n.wrapped.holds store = (n.holds store).map (!·) :=
  holds_not_right store n.line none n

/-- An operator that asks only whether its operands count as true. Both are checked, the left one
first. -/
lemma holds_logical {op : Operator} {f : Bool → Bool → Bool} (h : op.isUnary = false)
    (hf : ∀ a b : Value, Value.binary op a b = .ok (.truth (f a.isTruthy b.isTruthy)))
    (store : Store) (line : Option UInt32) (left right : Node) :
    (expression line (some left) op (some right)).holds store =
      (do let a ← left.holds store; let b ← right.holds store; pure (f a b)) := by
  rw [holds, evaluate_binary store line h, holds, holds]
  cases left.evaluate store with
  | error cause => rfl
  | ok a =>
    cases right.evaluate store with
    | error cause => rfl
    | ok b =>
      show (Value.binary op a.primitive b.primitive).map Value.isTruthy = .ok (f a.isTruthy b.isTruthy)
      rw [hf, Value.isTruthy_primitive, Value.isTruthy_primitive]
      rfl

/-- A comparison is opposed to the flipped one between the same operands. -/
lemma holds_flipped {op flip : Operator} (flips : op.flipped? = some flip) (store : Store)
    (line : Option UInt32) (left right : Node) :
    Opposed ((expression line (some left) op (some right)).holds store)
      ((expression line (some left) flip (some right)).holds store) := by
  have hop : op.isUnary = false := by cases op <;> cases flips <;> rfl
  have hflip : flip.isUnary = false := by cases op <;> cases flips <;> rfl
  rw [holds, evaluate_binary store line hop, holds, evaluate_binary store line hflip]
  cases left.evaluate store with
  | error cause => exact .fault (.same cause)
  | ok a =>
    cases right.evaluate store with
    | error cause => exact .fault (.same cause)
    | ok b => exact Value.binary_flipped flips a.primitive b.primitive

/-- In every store, a condition and its negation have opposite results or meet mirrored faults. -/
theorem holds_negated (store : Store) (n : Node) :
    Opposed (n.holds store) (n.negated.holds store) := by
  induction n using Node.negated.induct with
  | case1 line value => exact .result value
  | case2 line left operand =>
    rw [negated, holds_atLine, holds_not_right]
    exact .of_map_not (operand.holds store)
  | case3 line operand =>
    rw [negated, holds_atLine, holds_not_left]
    exact .of_map_not (operand.holds store)
  | case4 line left right ihl ihr =>
    rw [negated, holds_logical rfl (fun _ _ => rfl), holds_logical rfl (fun _ _ => rfl)]
    exact ihl.combine ihr (by decide)
  | case5 line left right ihl ihr =>
    rw [negated, holds_logical rfl (fun _ _ => rfl), holds_logical rfl (fun _ _ => rfl)]
    exact ihl.combine ihr (by decide)
  | case6 line left op right notNot notAnd notOr flip flips =>
    rw [negated.eq_6 _ _ _ _ notNot notAnd notOr, flips]
    exact holds_flipped flips store line left right
  | case7 line left op right notNot notAnd notOr flips =>
    rw [negated.eq_6 _ _ _ _ notNot notAnd notOr, flips, holds_wrapped]
    exact .map_not _
  | case8 n notBoolean notRight notLeft notAnd notOr notBinary =>
    rw [negated.eq_7 n notBoolean notRight notLeft notAnd notOr notBinary, holds_wrapped]
    exact .map_not _

/-- The two faults name the operator that each of the conditions has. -/
example :
    let n := expression none (some (number none 1)) .less (some (string none "a"))
    n.holds .empty = .error (.badOperand "<" "\"a\"") ∧
      n.negated.holds .empty = .error (.badOperand ">=" "\"a\"") :=
  ⟨by cbv, by cbv⟩

/-! ## Results -/

lemma toOption_both (x y : Except Fault Bool) (f : Bool → Bool → Bool) :
    (do let a ← x; let b ← y; pure (f a b) : Except Fault Bool).toOption =
      x.toOption.bind fun a => y.toOption.map (f a) := by
  cases x with
  | error => rfl
  | ok a => cases y <;> rfl

lemma toOption_holds_combined {op dual : Operator} {f g : Bool → Bool → Bool} (h : op.isUnary = false)
    (h' : dual.isUnary = false)
    (hf : ∀ a b : Value, Value.binary op a b = .ok (.truth (f a.isTruthy b.isTruthy)))
    (hg : ∀ a b : Value, Value.binary dual a b = .ok (.truth (g a.isTruthy b.isTruthy)))
    (hfg : ∀ a b, g (!a) (!b) = !(f a b)) {store : Store} {line : Option UInt32} {l l' r r' : Node}
    (hl : (l'.holds store).toOption = (l.holds store).toOption.map (!·))
    (hr : (r'.holds store).toOption = (r.holds store).toOption.map (!·)) :
    ((expression line (some l') dual (some r')).holds store).toOption =
      ((expression line (some l) op (some r)).holds store).toOption.map (!·) := by
  rw [holds_logical h hf, holds_logical h' hg, toOption_both, toOption_both, hl, hr]
  cases (l.holds store).toOption <;> cases (r.holds store).toOption <;> simp [hfg]

/-- A condition and its negation have opposite results, and where the one has none, neither has the
other. -/
lemma toOption_holds_negated (store : Store) (n : Node) :
    (n.negated.holds store).toOption = (n.holds store).toOption.map (!·) := by
  induction n using Node.negated.induct with
  | case1 line value => rfl
  | case2 line left operand =>
    rw [negated, holds_atLine, holds_not_right]
    exact (Opposed.of_map_not (operand.holds store)).toOption_eq
  | case3 line operand =>
    rw [negated, holds_atLine, holds_not_left]
    exact (Opposed.of_map_not (operand.holds store)).toOption_eq
  | case4 line left right ihl ihr =>
    exact toOption_holds_combined rfl rfl (fun _ _ => rfl) (fun _ _ => rfl) (by decide) ihl ihr
  | case5 line left right ihl ihr =>
    exact toOption_holds_combined rfl rfl (fun _ _ => rfl) (fun _ _ => rfl) (by decide) ihl ihr
  | case6 line left op right notNot notAnd notOr flip flips =>
    rw [negated.eq_6 _ _ _ _ notNot notAnd notOr, flips]
    exact (holds_flipped flips store line left right).toOption_eq
  | case7 line left op right notNot notAnd notOr flips =>
    rw [negated.eq_6 _ _ _ _ notNot notAnd notOr, flips, holds_wrapped]
    exact (Opposed.map_not _).toOption_eq
  | case8 n notBoolean notRight notLeft notAnd notOr notBinary =>
    rw [negated.eq_7 n notBoolean notRight notLeft notAnd notOr notBinary, holds_wrapped]
    exact (Opposed.map_not _).toOption_eq

/-- The condition that is checked has a result where the written one has the opposite one. -/
lemma holds_of_negated {n : Node} {store : Store} {b : Bool} (h : n.negated.holds store = .ok b) :
    n.holds store = .ok !b := by
  have opposite := toOption_holds_negated store n
  rw [h] at opposite
  cases hn : n.holds store with
  | error cause =>
    rw [hn] at opposite
    cases opposite
  | ok a =>
    rw [hn] at opposite
    cases opposite
    rw [Bool.not_not]

end Node

end Playback
