import Playback.Proofs.Negation

/-!
# Conditions negated twice

Each rule of `Node.negated` is undone by a rule: a comparison is flipped back, `not` is put in front and
taken away, and `and` and `or` change places twice. Only `not` that is taken away from an operand does
not come back, as the operand may be one that is rewritten itself. `Node.spine` lists the conditions that
the rules come to.

Main statement: negated twice, a condition is the same node again where none of those conditions is `not`
with an operand, and in any case it holds in the same stores and fails in the same stores
(`Node.negated_twice`).
-/

namespace Playback

lemma Operator.symbol_injective {op op' : Operator} (h : op.symbol = op'.symbol) : op = op' := by
  have same := congrArg named? h
  rwa [named?_symbol, named?_symbol, Option.some.injEq] at same

/-- A comparison that is flipped twice is about the same operator again. -/
lemma Fault.Mirrors.trans {a b c : Fault} (first : a.Mirrors b) (goes : b.Mirrors c) : a.Mirrors c := by
  cases first with
  | same => exact goes
  | @flipped op flip ordering flips value =>
    generalize between : Fault.badOperand flip.symbol value = b at goes
    cases goes with
    | same =>
      subst between
      exact .flipped ordering flips value
    | @flipped op' flip' _ flips' value' =>
      obtain ⟨symbols, rfl⟩ := Fault.badOperand.inj between
      obtain rfl := Operator.symbol_injective symbols
      have back : op = flip' :=
        Option.some.inj ((Operator.flipped?_flipped? flips).symm.trans flips')
      rw [back]
      exact .same _

/-- Two checks that are opposed to a third one have the same result, or mirrored faults. -/
lemma Opposed.twice {x y z : Except Fault Bool} (first : Opposed x y) (goes : Opposed y z) :
    (∀ b, x = .ok b → z = .ok b) ∧
      ∀ cause, x = .error cause → ∃ cause', z = .error cause' ∧ cause.Mirrors cause' := by
  cases first with
  | result b =>
    cases goes
    exact ⟨fun b' h => by rw [Bool.not_not, h], nofun⟩
  | fault mirrors =>
    cases goes with
    | fault mirrors' =>
      refine ⟨nofun, fun cause h => ⟨_, rfl, ?_⟩⟩
      cases h
      exact mirrors.trans mirrors'

namespace Node

/-- The node is `not` with an operand. -/
def isNegation : Node → Bool
  | expression _ left .not right => left.isSome || right.isSome
  | _ => false

/-- The condition itself, and what `and` and `or` join in it, at any depth. -/
def spine : Node → List Node
  | expression line (some left) .and (some right) =>
    expression line (some left) .and (some right) :: (left.spine ++ right.spine)
  | expression line (some left) .or (some right) =>
    expression line (some left) .or (some right) :: (left.spine ++ right.spine)
  | n => [n]

lemma self_mem_spine (n : Node) : n ∈ n.spine := by
  unfold spine
  split <;> exact List.mem_cons_self

lemma atLine_line (n : Node) : n.atLine n.line = n := by
  cases n <;> rfl

/-- What is put behind `not` is taken out again. -/
lemma negated_wrapped (n : Node) : n.wrapped.negated = n :=
  n.atLine_line

lemma negated_of_flipped? {op flip : Operator} (flips : op.flipped? = some flip) (line : Option UInt32)
    (left right : Node) : (expression line (some left) op (some right)).negated =
      expression line (some left) flip (some right) := by
  cases op <;> cases flips <;> rfl

/-- Every rule is undone where no `not` is taken away. -/
lemma negated_negated {n : Node} (h : ∀ m ∈ n.spine, m.isNegation = false) : n.negated.negated = n := by
  induction n using Node.negated.induct with
  | case1 line value => rw [negated, negated, Bool.not_not]
  | case2 line left operand =>
    have none := h _ (self_mem_spine _)
    rw [isNegation, Option.isSome_some, Bool.or_true] at none
    cases none
  | case3 line operand => cases h _ (self_mem_spine _)
  | case4 line left right ihl ihr =>
    obtain ⟨hleft, hright⟩ := List.forall_mem_append.1 (List.forall_mem_cons.1 h).2
    rw [negated, negated, ihl hleft, ihr hright]
  | case5 line left right ihl ihr =>
    obtain ⟨hleft, hright⟩ := List.forall_mem_append.1 (List.forall_mem_cons.1 h).2
    rw [negated, negated, ihl hleft, ihr hright]
  | case6 line left op right notNot notAnd notOr flip flips =>
    rw [negated_of_flipped? flips, negated_of_flipped? (Operator.flipped?_flipped? flips)]
  | case7 line left op right notNot notAnd notOr flips =>
    rw [negated.eq_6 _ _ _ _ notNot notAnd notOr, flips, negated_wrapped]
  | case8 n notBoolean notRight notLeft notAnd notOr notBinary =>
    rw [negated.eq_7 n notBoolean notRight notLeft notAnd notOr notBinary, negated_wrapped]

/-- Negated twice, a condition is the same node again, with all its lines, unless a `not` with an operand
is the condition itself or is joined in it by `and` and `or`. In any case it has the same result in every
store where the condition has one; where the condition fails, it fails, for the same cause or for the
one of the flipped comparison. -/
theorem negated_twice (n : Node) :
    ((∀ m ∈ n.spine, m.isNegation = false) → n.negated.negated = n) ∧
    ∀ store,
      (∀ b, n.holds store = .ok b → n.negated.negated.holds store = .ok b) ∧
      ∀ cause, n.holds store = .error cause →
        ∃ cause', n.negated.negated.holds store = .error cause' ∧ cause.Mirrors cause' :=
  ⟨negated_negated, fun store => (holds_negated store n).twice (holds_negated store n.negated)⟩

/-- A comparison, a sum and a `not` without an operand come back with their lines. The `not` in front of
a comparison does not, and the fault is then about the flipped comparison. -/
theorem negated_twice_joined :
    let compared := expression (some 2) (some (identifier (some 3) "x")) .less (some (number none 5))
    let sum := expression (some 4) (some (string none "a")) .add (some (identifier none "x"))
    let joined := expression (some 1) (some (expression none (some compared) .or (some sum))) .and
      (some (expression (some 7) none .not none))
    let store := Store.empty.set "x" (.text "a")
    joined.negated.negated = joined ∧
      (wrapped compared).negated.negated ≠ wrapped compared ∧
      (wrapped compared).holds store = .error (.badOperand "<" "\"a\"") ∧
      ∃ cause, (wrapped compared).negated.negated.holds store = .error cause ∧
        (Fault.badOperand "<" "\"a\"").Mirrors cause := by
  intro compared sum joined store
  have clear : ∀ m ∈ joined.spine, m.isNegation = false := by
    simp [joined, sum, compared, spine, isNegation]
  have fails : (wrapped compared).holds store = .error (.badOperand "<" "\"a\"") := rfl
  have differs : (wrapped compared).negated.negated ≠ wrapped compared := by
    intro same
    cases same
  exact ⟨(negated_twice joined).1 clear, differs, fails,
    ((negated_twice (wrapped compared)).2 store).2 _ fails⟩

end Node

end Playback
