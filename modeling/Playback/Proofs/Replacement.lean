import Playback.Proofs.Limits

/-!
# Replaced statements

A statement may be replaced by a list of statements, wherever it stands in a program: at the top, in
a block at any depth, or in a block of a node that stands where an expression belongs. What a
condition shows, what an expression yields and how a condition is negated depend on no statements,
so the two programs can differ only where the run comes to the place.

Main statement: where a program does not fail for an unsupported statement, any statements may stand
in its place, and the program does the same (`Program.yields_replaced`).
-/

namespace Playback

/-! ## Places -/

mutual

/-- The second node is the first one with one statement inside it, at any depth, replaced: `new`
stands where `old` stood. -/
inductive Node.Replaced (old : Node) (new : List Node) : Node → Node → Prop where
  | declared {line name value value'} (h : Replaced old new value value') :
      Replaced old new (.declaration line name value) (.declaration line name value')
  | printed {line value value'} (h : Replaced old new value value') :
      Replaced old new (.print line value) (.print line value')
  | condition {line condition condition' consequent alternate}
      (h : Replaced old new condition condition') :
      Replaced old new (.branch line condition consequent alternate)
        (.branch line condition' consequent alternate)
  | consequent {line condition consequent consequent' alternate}
      (h : ReplacedIn old new consequent consequent') :
      Replaced old new (.branch line condition consequent alternate)
        (.branch line condition consequent' alternate)
  | alternate {line condition consequent alternate alternate'}
      (h : ReplacedIn old new alternate alternate') :
      Replaced old new (.branch line condition consequent (some alternate))
        (.branch line condition consequent (some alternate'))
  | goal {line condition condition' body} (h : Replaced old new condition condition') :
      Replaced old new (.loopUntil line condition body) (.loopUntil line condition' body)
  | repeated {line condition body body'} (h : ReplacedIn old new body body') :
      Replaced old new (.loopUntil line condition body) (.loopUntil line condition body')
  | start {line counter first first' last body} (h : Replaced old new first first') :
      Replaced old new (.loopFromTo line counter first last body)
        (.loopFromTo line counter first' last body)
  | stop {line counter first last last' body} (h : Replaced old new last last') :
      Replaced old new (.loopFromTo line counter first last body)
        (.loopFromTo line counter first last' body)
  | counted {line counter first last body body'} (h : ReplacedIn old new body body') :
      Replaced old new (.loopFromTo line counter first last body)
        (.loopFromTo line counter first last body')
  | body {line name params body body'} (h : ReplacedIn old new body body') :
      Replaced old new (.function line name params body) (.function line name params body')
  | returned {line value value'} (h : Replaced old new value value') :
      Replaced old new (.ret line value) (.ret line value')
  | left {line left left' op right} (h : Replaced old new left left') :
      Replaced old new (.expression line (some left) op right)
        (.expression line (some left') op right)
  | right {line left op right right'} (h : Replaced old new right right') :
      Replaced old new (.expression line left op (some right))
        (.expression line left op (some right'))
  | first {line source first first' last} (h : Replaced old new first first') :
      Replaced old new (.substring line source first last) (.substring line source first' last)
  | last {line source first last last'} (h : Replaced old new last last') :
      Replaced old new (.substring line source first last) (.substring line source first last')

/-- The second list is the first one with one of the statements, or one inside them, replaced. -/
inductive Node.ReplacedIn (old : Node) (new : List Node) : List Node → List Node → Prop where
  | here {ns} : ReplacedIn old new (old :: ns) (new ++ ns)
  | head {n n' ns} (h : Replaced old new n n') : ReplacedIn old new (n :: ns) (n' :: ns)
  | tail {n ns ns'} (h : ReplacedIn old new ns ns') : ReplacedIn old new (n :: ns) (n :: ns')

end

variable {old : Node} {new : List Node}

/-! ## Expressions -/

namespace Node

lemma Replaced.line_eq {n n' : Node} (h : Replaced old new n n') : n'.line = n.line := by
  cases h <;> rfl

lemma Replaced.enclosed_eq {n n' : Node} (h : Replaced old new n n') (parent : Operator)
    (onRight : Bool) (text : String) :
    n'.enclosed parent onRight text = n.enclosed parent onRight text := by
  cases h <;> rfl

lemma Replaced.operandText_eq {n n' : Node} (h : Replaced old new n n') (ih : n'.text = n.text)
    (parent : Operator) (onRight : Bool) :
    operandText parent onRight (some n') = operandText parent onRight (some n) := by
  show n'.enclosed parent onRight n'.text = n.enclosed parent onRight n.text
  rw [ih, h.enclosed_eq]

lemma text_expression (line : Option UInt32) (l : Option Node) (op : Operator) (r : Option Node) :
    (expression line l op r).text =
      if op.isUnary then op.applied "" (operandText op true (r.or l))
      else op.applied (operandText op false l) (operandText op true r) := by
  cases r <;> rfl

/-- The text of an expression shows no statements. -/
lemma Replaced.text_eq : ∀ {n n' : Node}, Replaced old new n n' → n'.text = n.text
  | _, _, .declared _ | _, _, .printed _ | _, _, .condition _ | _, _, .consequent _
  | _, _, .alternate _ | _, _, .goal _ | _, _, .repeated _ | _, _, .start _ | _, _, .stop _
  | _, _, .counted _ | _, _, .body _ | _, _, .returned _ => rfl
  | _, _, @Replaced.left _ _ _ _ _ op other h => by
    have operand := h.operandText_eq h.text_eq op
    rw [text_expression, text_expression, operand]
    cases other with
    | none => rw [Option.none_or, Option.none_or, operand]
    | some n => rfl
  | _, _, @Replaced.right _ _ _ _ op _ _ h => by
    have operand := h.operandText_eq h.text_eq op
    rw [text_expression, text_expression, Option.some_or, Option.some_or, operand]
  | _, _, @Replaced.first _ _ _ source _ _ other h =>
    congrArg (fun text => "substring of " ++ source ++ " from " ++ text ++ " to " ++ other.text)
      h.text_eq
  | _, _, @Replaced.last _ _ _ source other _ _ h =>
    congrArg (fun text => "substring of " ++ source ++ " from " ++ other.text ++ " to " ++ text)
      h.text_eq

/-- The value of an expression depends on no statements. -/
lemma Replaced.evaluate_eq (store : Store) :
    ∀ {n n' : Node}, Replaced old new n n' → n'.evaluate store = n.evaluate store
  | _, _, .declared _ | _, _, .printed _ | _, _, .condition _ | _, _, .consequent _
  | _, _, .alternate _ | _, _, .goal _ | _, _, .repeated _ | _, _, .start _ | _, _, .stop _
  | _, _, .counted _ | _, _, .body _ | _, _, .returned _ => rfl
  | _, _, @Replaced.left _ _ _ _ _ op other h => by
    have ih := h.evaluate_eq store
    cases unary : op.isUnary with
    | true =>
      cases op <;> cases unary
      cases other with
      | none => rw [evaluate_not_left, evaluate_not_left, ih]
      | some n => rfl
    | false =>
      cases other with
      | none => cases op <;> first | rfl | cases unary
      | some n => rw [evaluate_binary store _ unary, evaluate_binary store _ unary, ih]
  | _, _, @Replaced.right _ _ _ other op _ _ h => by
    have ih := h.evaluate_eq store
    cases unary : op.isUnary with
    | true =>
      cases op <;> cases unary
      rw [evaluate_not_right, evaluate_not_right, ih]
    | false =>
      cases other with
      | none => cases op <;> first | rfl | cases unary
      | some n => rw [evaluate_binary store _ unary, evaluate_binary store _ unary, ih]
  | _, _, .first h => by rw [evaluate, evaluate, h.evaluate_eq store]
  | _, _, .last h => by rw [evaluate, evaluate, h.evaluate_eq store]

lemma Replaced.holds_eq {n n' : Node} (h : Replaced old new n n') (store : Store) :
    n'.holds store = n.holds store :=
  congrArg (Except.map Value.isTruthy) (h.evaluate_eq store)

lemma Replaced.evaluateNumber_eq {n n' : Node} (h : Replaced old new n n') (store : Store)
    (context : String) : n'.evaluateNumber store context = n.evaluateNumber store context := by
  rw [evaluateNumber, evaluateNumber, h.evaluate_eq]

lemma Replaced.printed_eq {n n' : Node} (h : Replaced old new n n') (store : Store) :
    n'.printed store = n.printed store := by
  have heq := h.evaluate_eq store
  cases h <;> exact congrArg (Except.map fun v => Action.print true none v.primitive) heq

lemma Replaced.atLine {n n' : Node} (h : Replaced old new n n') (line : Option UInt32) :
    Replaced old new (n.atLine line) (n'.atLine line) := by
  cases h <;> constructor <;> assumption

lemma Replaced.wrapped {n n' : Node} (h : Replaced old new n n') :
    Replaced old new n.wrapped n'.wrapped := by
  rw [Node.wrapped, Node.wrapped, h.line_eq]
  exact h.right

/-- The negation of a condition is replaced inside as the condition is, if it keeps the place. -/
lemma Replaced.negated {n n' : Node} (h : Replaced old new n n') :
    n'.negated = n.negated ∨ Replaced old new n.negated n'.negated := by
  induction n using Node.negated.induct generalizing n' with
  | case1 line value => cases h
  | case2 line left operand =>
    cases h with
    | left => exact .inl rfl
    | right h => exact .inr (h.atLine line)
  | case3 line operand =>
    cases h with
    | left h => exact .inr (h.atLine line)
  | case4 line l r ihl ihr | case5 line l r ihl ihr =>
    cases h with
    | left h =>
      rcases ihl h with heq | h'
      · exact .inl (by rw [Node.negated, Node.negated, heq])
      · exact .inr (.left h')
    | right h =>
      rcases ihr h with heq | h'
      · exact .inl (by rw [Node.negated, Node.negated, heq])
      · exact .inr (.right h')
  | case6 line l op r notNot notAnd notOr flip flips =>
    right
    cases h with
    | left h =>
      rw [negated.eq_6 _ _ _ _ notNot notAnd notOr, negated.eq_6 _ _ _ _ notNot notAnd notOr, flips]
      exact h.left
    | right h =>
      rw [negated.eq_6 _ _ _ _ notNot notAnd notOr, negated.eq_6 _ _ _ _ notNot notAnd notOr, flips]
      exact h.right
  | case7 line l op r notNot notAnd notOr flips =>
    right
    cases h with
    | left h =>
      rw [negated.eq_6 _ _ _ _ notNot notAnd notOr, negated.eq_6 _ _ _ _ notNot notAnd notOr, flips]
      exact h.left.wrapped
    | right h =>
      rw [negated.eq_6 _ _ _ _ notNot notAnd notOr, negated.eq_6 _ _ _ _ notNot notAnd notOr, flips]
      exact h.right.wrapped
  | case8 n notBoolean notRight notLeft notAnd notOr notBinary =>
    right
    have wraps : n'.negated = n'.wrapped := by
      cases h with
      | @left line l l' op r h =>
        cases r with
        | some r => exact absurd rfl (notBinary line l op r)
        | none => cases op <;> first | rfl | exact absurd rfl (notLeft line l)
      | @right line l op r r' h =>
        cases l with
        | some l => exact absurd rfl (notBinary line l op r)
        | none => cases op <;> first | rfl | exact absurd rfl (notRight line none r)
      | _ => rfl
    rw [negated.eq_7 n notBoolean notRight notLeft notAnd notOr notBinary, wraps]
    exact h.wrapped

end Node

/-! ## Loops -/

section

variable {n n' : Node} (h : Node.Replaced old new n n') (line : Option UInt32) (counter : String)
include h

lemma Guard.loop_conditional_replaced :
    (conditional line n').loop = (conditional line n).loop := by
  simp only [loop, Guard.line, Guard.condition, test]
  rcases h.negated with heq | h'
  · rw [heq]
  · rw [h'.text_eq, funext h'.holds_eq]

lemma Guard.loop_counting_replaced :
    (counting line counter n').loop = (counting line counter n).loop := by
  simp only [loop, Guard.line, Guard.condition, test, h.text_eq, h.evaluateNumber_eq]

end

lemma Code.run_rounds_of_loop_eq {budget : Budget} {guard guard' : Guard} {body : List Node}
    {left : Nat} {s : State} (h : guard'.loop = guard.loop) :
    (rounds guard' body left).run budget s = (rounds guard body left).run budget s := by
  rw [run, run, h]

/-! ## Runs -/

/-- The second computation gives what the first one gives, unless that is `halt`. -/
def Follows {α : Type} (halt : Halt) (x y : Except Halt α) : Prop :=
  x ≠ .error halt → y = x

namespace Follows

variable {α β : Type} {halt : Halt}

lemma refl (x : Except Halt α) : Follows halt x x :=
  fun _ => rfl

lemma bind {x y : Except Halt α} {f g : α → Except Halt β} (first : Follows halt x y)
    (rest : ∀ a, Follows halt (f a) (g a)) : Follows halt (x >>= f) (y >>= g) := by
  intro spared
  cases x with
  | error e =>
    have heq : y = .error e := first fun halts => spared (congrArg (· >>= f) halts)
    rw [heq]
    rfl
  | ok a =>
    have heq : y = .ok a := first nofun
    rw [heq]
    exact rest a spared

variable {budget : Budget}

/-- The rounds of a loop follow when its body does. -/
lemma rounds {body body' : List Node}
    (h : ∀ s, Follows halt ((Code.block body).run budget s) ((Code.block body').run budget s))
    (guard : Guard) : ∀ left s, Follows halt ((Code.rounds guard body left).run budget s)
      ((Code.rounds guard body' left).run budget s)
  | 0, s => by
    rw [Code.run_rounds_zero, Code.run_rounds_zero]
    exact refl _
  | left + 1, s => by
    rw [Code.run_rounds_succ, Code.run_rounds_succ]
    refine bind (refl _) fun result => ?_
    cases result with
    | false => exact refl _
    | true =>
      refine bind (h _) fun round => ?_
      cases hflow : round.flow with
      | returned => exact refl _
      | next => exact bind (refl _) fun step => bind (rounds h guard left step.state) fun _ => refl _

end Follows

namespace Node

variable {budget : Budget} {halt : Halt}

mutual

lemma Replaced.follows (stops : ∀ s, old.run budget s = .error halt) :
    ∀ {n n' : Node}, Replaced old new n n' → ∀ s,
      Follows halt ((Code.statement n).run budget s) ((Code.statement n').run budget s)
  | _, _, .declared h, s => by
    rw [Code.run_declaration, Code.run_declaration, h.evaluate_eq]
    exact .refl _
  | _, _, .printed h, s => by
    rw [Code.run_print, Code.run_print, h.printed_eq]
    exact .refl _
  | _, _, .condition h, s => by
    rw [Code.run_branch, Code.run_branch, h.holds_eq, h.text_eq]
    exact .refl _
  | _, _, .consequent h, s => by
    rw [Code.run_branch, Code.run_branch]
    refine .bind (.refl _) fun result => .bind ?_ fun _ => .refl _
    cases result with
    | true => exact h.follows stops _
    | false => exact .refl _
  | _, _, .alternate h, s => by
    rw [Code.run_branch, Code.run_branch]
    refine .bind (.refl _) fun result => .bind ?_ fun _ => .refl _
    cases result with
    | true => exact .refl _
    | false => exact h.follows stops _
  | _, _, @Replaced.goal _ _ line condition condition' _ h, s => by
    have same := Guard.loop_conditional_replaced h line
    rw [Code.run_loopUntil, Code.run_loopUntil, Code.run_rounds_of_loop_eq same,
      show condition'.negated.text = condition.negated.text from congrArg Loop.condition same]
    exact .refl _
  | _, _, .repeated h, s => by
    rw [Code.run_loopUntil, Code.run_loopUntil]
    exact .bind (.rounds (h.follows stops) _ _ _) fun _ => .refl _
  | _, _, .start h, s => by
    rw [Code.run_loopFromTo, Code.run_loopFromTo, h.evaluateNumber_eq]
    exact .refl _
  | _, _, @Replaced.stop _ _ line counter _ _ _ _ h, s => by
    have same := Guard.loop_counting_replaced h line counter
    rw [Code.run_loopFromTo, Code.run_loopFromTo, h.text_eq]
    simp only [Code.run_rounds_of_loop_eq same]
    exact .refl _
  | _, _, .counted h, s => by
    rw [Code.run_loopFromTo, Code.run_loopFromTo]
    exact .bind (.refl _) fun x => .bind (.rounds (h.follows stops) _ _ _) fun _ => .refl _
  | _, _, .body h, s => by
    rw [Code.run_function, Code.run_function]
    exact .bind (h.follows stops s) fun _ => .refl _
  | _, _, .returned h, s => by
    rw [Code.run_ret, Code.run_ret, h.text_eq]
    exact .refl _
  | _, _, .left _, s | _, _, .right _, s | _, _, .first _, s | _, _, .last _, s => .refl _

lemma ReplacedIn.follows (stops : ∀ s, old.run budget s = .error halt) :
    ∀ {ns ns' : List Node}, ReplacedIn old new ns ns' → ∀ s,
      Follows halt ((Code.block ns).run budget s) ((Code.block ns').run budget s)
  | _, _, .here, s => by
    intro spared
    rw [Code.run_cons, Code.run, stops s] at spared
    exact absurd rfl spared
  | _, _, .head h, s => by
    rw [Code.run_cons, Code.run_cons]
    exact .bind (h.follows stops s) fun _ => .refl _
  | _, _, .tail h, s => by
    rw [Code.run_cons, Code.run_cons]
    refine .bind (.refl _) fun first => ?_
    cases first.flow with
    | returned => exact .refl _
    | next => exact .bind (h.follows stops first.state) fun _ => .refl _

end

end Node

namespace Program

variable {p q : Program} {line : Option UInt32} {kind : String}

lemma trace_replaced (h : Node.ReplacedIn (.unsupported line kind) new p.statements q.statements)
    {budget : Budget} {clock : Clock}
    (unreached : p.trace budget clock ≠ .error (.fault (.unsupported kind))) :
    q.trace budget clock = p.trace budget clock := by
  have stops : ∀ s, (Node.unsupported line kind).run budget s =
      .error (.fault (.unsupported kind)) := fun s => rfl
  have follows : Follows (.fault (.unsupported kind)) (p.trace budget clock) (q.trace budget clock) := by
    rw [trace_eq, trace_eq]
    exact (h.follows stops .initial).bind fun _ => .refl _
  exact follows unreached

/-- An unsupported statement counts only where the run comes to it. If a program does not fail for a
statement of this kind, under a limit on the rounds of loops or under none, it yields the same
result, if any, with any statements in its place. -/
theorem yields_replaced (h : Node.ReplacedIn (.unsupported line kind) new p.statements q.statements)
    {limit : Option Nat} {clock : Clock}
    (unreached : ¬ p.Yields limit clock (.error (.unsupported kind))) (result : Except Fault Trace) :
    q.Yields limit clock result ↔ p.Yields limit clock result := by
  cases limit with
  | some n =>
    have same : q.trace (.limit n) clock = p.trace (.limit n) clock := trace_replaced h unreached
    rw [Yields, Yields, same]
  | none =>
    have same (n : Nat) : q.trace (.fuel n) clock = p.trace (.fuel n) clock :=
      trace_replaced h fun fails => unreached ⟨n, fails⟩
    simp only [Yields, same]

end Program

/-- A loop of two rounds around a function that returns before an unsupported statement. -/
def skipsStatement (skipped : List Node) : Program where
  statements := [
    .loopFromTo (some 1) "i" (.number none 1) (.number none 2) [
      .function (some 2) "f" [] (.ret (some 3) (.identifier none "i") :: skipped)]]

/-- What stands behind the return may be of any kind, and may set the counter of the loop. -/
theorem yields_replaced_skipsStatement :
    let new : List Node :=
      [.number none 7, .unsupported none "Goto", .declaration (some 9) "i" (.number none 5)]
    let p := skipsStatement [.unsupported (some 4) "Goto"]
    let q := skipsStatement new
    ¬ p.Yields none (.steps 0 1) (.error (.unsupported "Goto")) ∧
      (∃ t, p.Yields none (.steps 0 1) (.ok t) ∧ t.size = 10 ∧ q.Yields none (.steps 0 1) (.ok t)) ∧
      ∀ result, q.Yields none (.steps 0 1) result ↔ p.Yields none (.steps 0 1) result := by
  intro new p q
  have compiles : ∃ t, p.trace (.fuel 2) (.steps 0 1) = .ok t ∧ t.size = 10 := ⟨_, rfl, rfl⟩
  obtain ⟨t, h, hsize⟩ := compiles
  have yields : p.Yields none (.steps 0 1) (.ok t) := ⟨2, h⟩
  have unreached : ¬ p.Yields none (.steps 0 1) (.error (.unsupported "Goto")) :=
    fun fails => nomatch yields.unique fails
  have replaced : Node.ReplacedIn (.unsupported (some 4) "Goto") new p.statements q.statements :=
    .head (.counted (.head (.body (.tail (.here : Node.ReplacedIn _ new (_ :: []) _)))))
  have same := Program.yields_replaced replaced unreached
  exact ⟨unreached, ⟨t, yields, hsize, (same _).2 yields⟩, same⟩

end Playback
