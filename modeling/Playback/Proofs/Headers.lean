import Playback.Proofs.Comparisons
import Playback.Proofs.ConditionText
import Playback.Proofs.Grammar
import Playback.Proofs.Iterations
import Playback.Proofs.Replacement

/-!
# Headers of counting loops

A counting loop compares its counter with its bound, and shows the counter, `<=` and the text of the bound.
As the operand of a comparison, a bound that binds no more strongly than `<=` stands in parentheses; here
it does not. The text is then that of another condition, in which the counter is compared with the first
operand of the bound only (`Node.text_comparingFirst`).

Main statements: what a loop checks is the comparison of its counter with its bound
(`Guard.test_counting_eq_holds`), and the text of this comparison is what the header and all the checks
show, exactly where the bound needs no parentheses (`Node.loopFromTo_shows`).
-/

namespace Playback

/-- The operator binds no more strongly than a comparison. -/
def Operator.isLoose (op : Operator) : Bool :=
  decide (op.precedence ≤ lessEq.precedence)

namespace Node

/-- The node is a comparison, or joins two conditions. -/
def isLoose (n : Node) : Bool :=
  n.binaryOperator?.any Operator.isLoose

/-- The comparison of a counter with a bound. -/
def atMost (line line' : Option UInt32) (counter : String) (bound : Option Node) : Node :=
  expression line (some (identifier line' counter)) .lessEq bound

/-- The condition that is read from a counter, `<=` and the text of a bound. Of a loose bound, the first
operand is compared with the counter. -/
def comparingFirst (counter : String) : Node → Node
  | expression line none op right =>
    if op.isLoose then expression line (some (atMost none none counter none)) op right
    else atMost none none counter (some (expression line none op right))
  | expression line (some left) op right =>
    if op.isLoose then
      if left.isEnclosed op false then
        expression line (some (atMost none none counter (some left))) op right
      else expression line (some (left.comparingFirst counter)) op right
    else atMost none none counter (some (expression line (some left) op right))
  | n => atMost none none counter (some n)

/-! ## What is shown -/

lemma operandText_some (parent : Operator) (onRight : Bool) (n : Node) :
    operandText parent onRight (some n) =
      if n.isEnclosed parent onRight then "(" ++ n.text ++ ")" else n.text := by
  rw [operandText, enclosed, isEnclosed]
  cases n.binaryOperator? <;> rfl

lemma operandText_bare {parent : Operator} {onRight : Bool} {n : Node}
    (h : n.isEnclosed parent onRight = false) : operandText parent onRight (some n) = n.text := by
  rw [operandText_some, h, if_neg Bool.false_ne_true]

lemma text_atMost (line line' : Option UInt32) (counter : String) (bound : Option Node) :
    (atMost line line' counter bound).text =
      Operator.lessEq.applied counter (operandText .lessEq true bound) :=
  text_expression ..

/-- A comparison puts a loose bound in parentheses. -/
lemma isEnclosed_lessEq (n : Node) : n.isEnclosed .lessEq true = n.isLoose := by
  unfold isEnclosed isLoose
  cases n.binaryOperator? with
  | none => rfl
  | some op => cases op <;> rfl

lemma isLoose_expression (line : Option UInt32) (left : Option Node) (op : Operator)
    (right : Option Node) : (expression line left op right).isLoose = op.isLoose := by
  cases op <;> rfl

section

variable {op : Operator} (loose : op.isLoose = true)
include loose

lemma isUnary_of_isLoose : op.isUnary = false := by
  cases op with
  | not => cases loose
  | _ => rfl

/-- A loose operator puts no comparison on its left in parentheses. -/
lemma isEnclosed_atMost (line line' : Option UInt32) (counter : String) (bound : Option Node) :
    (atMost line line' counter bound).isEnclosed op false = false := by
  cases op <;> first | rfl | cases loose

/-- A loose operator puts only loose operands in parentheses. -/
lemma isLoose_of_isEnclosed {n : Node} (h : n.isEnclosed op false = true) : n.isLoose = true := by
  unfold isEnclosed at h
  unfold isLoose
  cases hchild : n.binaryOperator? with
  | none => simp [hchild] at h
  | some child =>
    rw [hchild] at h
    dsimp only [Operator.encloses] at h
    split at h
    · cases h
    · exact decide_eq_true ((of_decide_eq_true h).le.trans (of_decide_eq_true loose))

/-- What is read as the first operand of a loose operator stands without parentheses, as the left operand
does. -/
lemma isEnclosed_comparingFirst (counter : String) {left : Node} (h : left.isEnclosed op false = false) :
    (left.comparingFirst counter).isEnclosed op false = false := by
  cases left with
  | expression line left' inner right =>
    cases left' with
    | none =>
      rw [comparingFirst]
      split
      · exact h
      · exact isEnclosed_atMost loose ..
    | some left' =>
      rw [comparingFirst]
      split
      · split <;> exact h
      · exact isEnclosed_atMost loose ..
  | _ => exact isEnclosed_atMost loose ..

/-- Texts can be regrouped where operands cannot. -/
lemma text_first {counter : String} {first : Node} {left : Option Node} (line : Option UInt32)
    (right : Option Node)
    (h : operandText op false (some first) = Operator.lessEq.applied counter (operandText op false left)) :
    (expression line (some first) op right).text =
      Operator.lessEq.applied counter (expression line left op right).text := by
  have binary := isUnary_of_isLoose loose
  have binary' : Operator.lessEq.isUnary = false := rfl
  rw [text_expression, text_expression, h]
  simp only [Operator.applied, binary, binary', Bool.false_eq_true, if_false, String.append_assoc]

end

/-- A counter, `<=` and the text of a bound are the text of a condition. -/
theorem text_comparingFirst (counter : String) (n : Node) :
    (n.comparingFirst counter).text = Operator.lessEq.applied counter n.text := by
  -- where a bound is not loose, the condition is the comparison
  have tight {bound : Node} (h : bound.isLoose = false) :
      (atMost none none counter (some bound)).text = Operator.lessEq.applied counter bound.text := by
    rw [text_atMost, operandText_bare ((isEnclosed_lessEq bound).trans h)]
  fun_induction comparingFirst counter n with
  | case1 line op right loose =>
    refine text_first loose line right ?_
    rw [operandText_bare (isEnclosed_atMost loose ..), text_atMost]
    rfl
  | case3 line left op right loose enclosed =>
    refine text_first loose line right ?_
    rw [operandText_bare (isEnclosed_atMost loose ..), text_atMost, operandText_some, operandText_some,
      isEnclosed_lessEq, isLoose_of_isEnclosed loose enclosed, enclosed]
  | case4 line left op right loose bare ih =>
    have bare := eq_false_of_ne_true bare
    refine text_first loose line right ?_
    rw [operandText_bare (isEnclosed_comparingFirst loose counter bare), ih, operandText_bare bare]
  | case2 line op right firm | case5 line left op right firm =>
    exact tight ((isLoose_expression ..).trans (eq_false_of_ne_true firm))
  | case6 n withoutLeft withLeft =>
    refine tight ?_
    cases n with
    | expression line left op right =>
      cases left with
      | none => exact (withoutLeft _ _ _ rfl).elim
      | some left => exact (withLeft _ _ _ _ rfl).elim
    | _ => rfl

end Node

/-! ## What is checked -/

/-- A number is at most another one where it is less or equal. -/
lemma Binary.decide_le (x y : Float) : decide (x ≤ y) = (Value.orderNumbers? x y).any Ordering.isLE := by
  rw [Value.orderNumbers?_eq, Bool.eq_iff_iff, decide_eq_true_iff]
  exact decide_eq_true_iff

lemma Value.requireNumber_eq_ok_iff {context : String} {v : Value} {x : Float} :
    v.requireNumber context = .ok x ↔ v.toNumber? = some x := by
  unfold requireNumber
  cases v.toNumber? <;> simp

/-- What a counting loop checks is the comparison of its counter with its bound, where both are numbers. -/
theorem Guard.test_counting_eq_holds {counter : String} {last : Node} {store : Store} {x bound : Float}
    (counts : store.get? counter = some (.number x))
    (bounded : last.evaluateNumber store "from_to" = .ok bound) (isNumber : x.isNaN = false)
    (isNumber' : bound.isNaN = false) (line line' line'' : Option UInt32) :
    (counting line counter last).loop.test store =
      (Node.atMost line' line'' counter (some last)).holds store := by
  obtain ⟨v, value, counted⟩ := bind_eq_ok_iff.1 bounded
  have number : v.primitive.toNumber? = some bound := by
    rw [Value.toNumber?_primitive, Value.requireNumber_eq_ok_iff.1 counted]
  have ordered : Value.orderNumbers? x bound ≠ none := by
    rw [Ne, Value.orderNumbers?_eq_none_iff, isNumber, isNumber']
    exact not_or.2 ⟨Bool.false_ne_true, Bool.false_ne_true⟩
  obtain ⟨o, ho⟩ := Option.ne_none_iff_exists'.1 ordered
  have order : Value.order? (.number x) v.primitive = some o := by
    rw [Value.order?_numbers (.inl rfl), number]
    exact ho
  have tests : (counting line counter last).loop.test store = .ok o.isLE :=
    test_counting_eq_ok_iff.2 ⟨x, bound, counts, bounded, by rw [Binary.decide_le, ho]; rfl⟩
  have reads : (Node.identifier line'' counter).evaluate store = .ok (.number x) := by
    rw [Node.evaluate, Store.read, counts]
    rfl
  rw [tests, Node.holds, Node.atMost, Node.evaluate_binary store line' rfl, reads, value]
  show _ = (Value.binary .lessEq (.number x) v.primitive).map Value.isTruthy
  rw [Value.binary_of_order? rfl _ _ order]
  rfl

/-! ## Headers -/

lemma Operator.applied_lessEq (left right : String) :
    lessEq.applied left right = left ++ " <= " ++ right := by
  rw [show " <= " = " " ++ lessEq.symbol ++ " " from rfl, ← String.append_assoc, ← String.append_assoc]
  rfl

/-- A comparison adds nothing to the texts of its counter and its bound, unless the bound is loose. -/
lemma Node.applied_eq_text_iff (line line' : Option UInt32) (counter : String) (last : Node) :
    Operator.lessEq.applied counter last.text = (atMost line line' counter (some last)).text ↔
      last.isLoose = false := by
  rw [text_atMost, operandText_some, isEnclosed_lessEq]
  cases last.isLoose with
  | false => simp
  | true =>
    refine iff_of_false (fun same => ?_) Bool.noConfusion
    have lengths := congrArg String.length same
    simp only [Operator.applied_lessEq, String.length_append, if_true] at lengths
    have parentheses : "(".length + ")".length = 2 := rfl
    omega

/-- A counting loop sets its counter, shows its header and goes through its rounds. The header and all the
checks of the rounds show the counter, `<=` and the text of the bound. This is the text of the comparison of
the counter with the bound exactly where the bound is no comparison and joins no conditions; else it is that
of another condition. The frames are those that every machine in the same state adds. -/
theorem Node.loopFromTo_shows {budget : Budget} {line : Option UInt32} {counter : String}
    {first last : Node} {body : List Node} {s : State} {r : Run}
    (h : (loopFromTo line counter first last body).run budget s = .ok r)
    (line' line'' : Option UInt32) :
    let shown := counter ++ " <= " ++ last.text
    let comparison := expression line' (some (identifier line'' counter)) .lessEq (some last)
    (∃ x rounds,
      r.frames = Frame.closed (s.frame line (.set counter .number (.number x)) ::
        s.frame line (.loopFromTo shown) :: rounds) (.endLoop .counting) ∧
      (Phrase.rounds shown (some counter)).Derives (fun _ _ => True) r.flow rounds) ∧
    (shown = comparison.text ↔ last.isLoose = false) ∧
    shown = (last.comparingFirst counter).text ∧
    ∀ m : Machine, m.state = s →
      (loopFromTo line counter first last body).exec budget m = .ok (r.flow, m.behind r) := by
  intro shown comparison
  have runs : Runs budget (.statement (loopFromTo line counter first last body)) s r :=
    Code.ends_iff.1 h
  have applied : Operator.lessEq.applied counter last.text = shown := Operator.applied_lessEq ..
  refine ⟨?_, applied ▸ applied_eq_text_iff .., applied ▸ (text_comparingFirst counter last).symm,
    fun m here => Code.exec_of_run runs.run_eq here⟩
  cases runs with
  | @loopFromTo _ _ _ _ _ _ x start inner starts sets runs =>
    subst sets
    have derives : (Phrase.rounds (Operator.lessEq.applied counter last.text) (some counter)).Derives
        (fun _ _ => True) inner.flow inner.frames := runs.derives.mono fun _ _ _ => trivial
    rw [applied] at derives
    refine ⟨x, inner.frames, ?_, derives⟩
    rw [State.frame_assign, applied]
    rfl

/-- A loop up to the number behind `n` shows the comparison that it makes. -/
theorem Node.loopFromTo_shows_upToNext :
    let next := operation .add (identifier none "n") (number none 1)
    let s : State := ⟨Store.empty.set "n" (.number 1), 0⟩
    next.isLoose = false ∧
      ∃ r, (loopFromTo (some 1) "i" (number none 1) next []).run (.limit 2) s = .ok r ∧
        (∃ x rounds,
          r.frames = Frame.closed (s.frame (some 1) (.set "i" .number (.number x)) ::
            s.frame (some 1) (.loopFromTo "i <= n + 1") :: rounds) (.endLoop .counting) ∧
          (Phrase.rounds "i <= n + 1" (some "i")).Derives (fun _ _ => True) r.flow rounds) ∧
        "i <= n + 1" = (operation .lessEq (identifier none "i") next).text := by
  intro next s
  have ends : ∃ r, (loopFromTo (some 1) "i" (number none 1) next []).run (.limit 2) s = .ok r := ⟨_, rfl⟩
  obtain ⟨r, h⟩ := ends
  have text : "i" ++ " <= " ++ next.text = "i <= n + 1" := by decide +kernel
  obtain ⟨frames, comparison, -⟩ := loopFromTo_shows h none none
  rw [text] at frames comparison
  exact ⟨rfl, r, h, frames, comparison.2 rfl⟩

/-- A loop up to `5 and 5`, which is true and counts as 1, shows the text of another condition than its
comparison. The other condition holds for 2, where the check fails. -/
theorem Node.loopFromTo_hides_grouping :
    let last := operation .and (number none 5) (number none 5)
    let comparison := operation .lessEq (identifier none "i") last
    let other := operation .and (operation .lessEq (identifier none "i") (number none 5)) (number none 5)
    last.comparingFirst "i" = other ∧ comparison.text = "i <= (5 and 5)" ∧ other.text = "i <= 5 and 5" ∧
      ∃ r, (loopFromTo (some 1) "i" (number none 1) last []).run (.limit 1) .initial = .ok r ∧
        Frame.actionsOf r.frames = [.set "i" .number (.number 1), .loopFromTo "i <= 5 and 5",
          .check "i <= 5 and 5" true, .set "i" .number (.number 2), .check "i <= 5 and 5" false,
          .endLoop .counting] ∧
        comparison.holds r.state.store = .ok false ∧ other.holds r.state.store = .ok true := by
  intro last comparison other
  have ends : comparison.text = "i <= (5 and 5)" ∧ other.text = "i <= 5 and 5" ∧
      ((loopFromTo (some 1) "i" (number none 1) last []).run (.limit 1) .initial).map (fun r =>
        (Frame.actionsOf r.frames, comparison.holds r.state.store, other.holds r.state.store)) =
          .ok ([.set "i" .number (.number 1), .loopFromTo "i <= 5 and 5", .check "i <= 5 and 5" true,
            .set "i" .number (.number 2), .check "i <= 5 and 5" false, .endLoop .counting],
            .ok false, .ok true) := by
    decide +kernel
  obtain ⟨text, text', ends⟩ := ends
  obtain ⟨r, h, shows⟩ := map_eq_ok_iff.1 ends
  obtain ⟨actions, holds⟩ := Prod.mk.inj shows
  exact ⟨rfl, text, text', r, h, actions, Prod.mk.inj holds⟩

end Playback
