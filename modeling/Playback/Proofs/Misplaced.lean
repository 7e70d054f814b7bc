import Playback.Compilation
import Playback.Proofs.Negation
import Playback.Proofs.Reads
import Playback.Survey

/-!
# Misplaced nodes

A node stands as a statement or as an expression. Where it cannot stand as what it is, it is misplaced:
what is not supported is so everywhere, and an expression is where an operand is missing that its
operator needs. `Program.Holds` says where the nodes of a program stand; the value of a return is not
among them, for it is shown and not evaluated.

Main statement: a run that fails for an unsupported node has a misplaced node of that kind to blame,
which the survey of the program counts, and lists when it is not supported (`Program.trace_unsupported`).
-/

namespace Playback

/-- What a node stands as. -/
inductive Role where
  | statement
  | expression
deriving DecidableEq, Repr

/-- The second node is a part of the first one, and stands there in the role. -/
inductive Node.Part : Node → Role → Node → Prop where
  | declared {line name value} : Part (.declaration line name value) .expression value
  | printed {line value} : Part (.print line value) .expression value
  | condition {line condition consequent alternate} :
      Part (.branch line condition consequent alternate) .expression condition
  | consequent {line condition consequent alternate n} (mem : n ∈ consequent) :
      Part (.branch line condition consequent alternate) .statement n
  | alternate {line condition consequent alternate n} (mem : n ∈ alternate) :
      Part (.branch line condition consequent (some alternate)) .statement n
  | goal {line condition body} : Part (.loopUntil line condition body) .expression condition
  | repeated {line condition body n} (mem : n ∈ body) :
      Part (.loopUntil line condition body) .statement n
  | start {line counter first last body} :
      Part (.loopFromTo line counter first last body) .expression first
  | stop {line counter first last body} :
      Part (.loopFromTo line counter first last body) .expression last
  | counted {line counter first last body n} (mem : n ∈ body) :
      Part (.loopFromTo line counter first last body) .statement n
  | body {line name params body n} (mem : n ∈ body) :
      Part (.function line name params body) .statement n
  | left {line left op right} : Part (.expression line (some left) op right) .expression left
  | right {line left op right} : Part (.expression line left op (some right)) .expression right
  | first {line source first last} : Part (.substring line source first last) .expression first
  | last {line source first last} : Part (.substring line source first last) .expression last

/-- The node stands in the program in the role. -/
inductive Program.Holds (p : Program) : Role → Node → Prop where
  | statement {n} (mem : n ∈ p.statements) : Holds p .statement n
  | part {role n role' m} (holds : Holds p role n) (part : n.Part role' m) : Holds p role' m

/-- The node cannot stand in the role. -/
inductive Node.Misplaced : Role → Node → Prop where
  | unsupported {role line kind} : Misplaced role (.unsupported line kind)
  | expression {n} (h : n.isStatement = false) : Misplaced .statement n
  | statement {n} (h : n.isStatement = true) : Misplaced .expression n
  | noOperand {line op} (unary : op.isUnary = true) :
      Misplaced .expression (.expression line none op none)
  | noLeft {line op right} (binary : op.isUnary = false) :
      Misplaced .expression (.expression line none op right)
  | noRight {line left op} (binary : op.isUnary = false) :
      Misplaced .expression (.expression line left op none)

/-- A node of this kind is misplaced in the program. -/
def Program.Misplaces (p : Program) (kind : String) : Prop :=
  ∃ role n, p.Holds role n ∧ n.Misplaced role ∧ n.kind = kind

variable {p : Program}

/-! ## Expressions -/

namespace Node

variable {store : Store} {kind : String}

lemma Misplaced.misplaces {n : Node} {role : Role} (misplaced : n.Misplaced role)
    (holds : p.Holds role n) (hkind : n.kind = kind) : p.Misplaces kind :=
  ⟨role, n, holds, misplaced, hkind⟩

/-- Reading a variable is never to blame on a node. -/
lemma read_ne_unsupported (store : Store) (name : String) :
    store.read name ≠ .error (.unsupported kind) := by
  intro fails
  obtain ⟨-, heq⟩ := Store.read_eq_error_iff.1 fails
  cases heq

/-- If one of two operands is to blame on a node, so is the operation. -/
lemma misplaces_of_operands {op : Operator} (binary : op.isUnary = false) {line : Option UInt32}
    {left right : Node}
    (hleft : left.evaluate store = .error (.unsupported kind) → p.Misplaces kind)
    (hright : right.evaluate store = .error (.unsupported kind) → p.Misplaces kind)
    (fails : (expression line (some left) op (some right)).evaluate store =
      .error (.unsupported kind)) : p.Misplaces kind := by
  rw [evaluate_binary store line binary] at fails
  rcases bind_eq_error_iff.1 fails with fails | ⟨a, -, fails⟩
  · exact hleft fails
  rcases bind_eq_error_iff.1 fails with fails | ⟨b, -, fails⟩
  · exact hright fails
  · exact absurd fails ((Value.binary_failsByValues op _ _).ne_unsupported kind)

/-- An expression that cannot be evaluated for a node has a misplaced node of this kind inside it. -/
lemma misplaces_of_evaluate : ∀ {n : Node}, p.Holds .expression n →
    n.evaluate store = .error (.unsupported kind) → p.Misplaces kind
  | identifier _ name, _, h | length _ name, _, h =>
    absurd (map_eq_error_iff.1 h) (read_ne_unsupported store name)
  | substring _ source first last, holds, h => by
    rw [evaluate] at h
    rcases bind_eq_error_iff.1 h with fails | ⟨v, -, h⟩
    · exact absurd fails (read_ne_unsupported store source)
    rcases bind_eq_error_iff.1 h with fails | ⟨a, -, h⟩
    · exact misplaces_of_evaluate (holds.part .first) fails
    rcases bind_eq_error_iff.1 h with fails | ⟨i, -, h⟩
    · exact absurd fails (a.requireIndex_failsByValues.ne_unsupported kind)
    rcases bind_eq_error_iff.1 h with fails | ⟨b, -, h⟩
    · exact misplaces_of_evaluate (holds.part .last) fails
    rcases bind_eq_error_iff.1 h with fails | ⟨j, -, h⟩
    · exact absurd fails (b.requireIndex_failsByValues.ne_unsupported kind)
    · exact absurd h ((v.cut_failsByValues source i j).ne_unsupported kind)
  | expression line (some left) op (some right), holds, h => by
    cases unary : op.isUnary with
    | true =>
      cases op with
      | not => exact misplaces_of_evaluate (holds.part .right) (map_eq_error_iff.1 h)
      | _ => cases unary
    | false =>
      exact misplaces_of_operands unary (misplaces_of_evaluate (holds.part .left))
        (misplaces_of_evaluate (holds.part .right)) h
  | expression line none op (some right), holds, h => by
    cases op with
    | not => exact misplaces_of_evaluate (holds.part .right) (map_eq_error_iff.1 h)
    | _ =>
      cases h
      exact (Misplaced.noLeft rfl).misplaces holds rfl
  | expression line (some left) op none, holds, h => by
    cases op with
    | not => exact misplaces_of_evaluate (holds.part .left) (map_eq_error_iff.1 h)
    | _ =>
      cases h
      exact (Misplaced.noRight rfl).misplaces holds rfl
  | expression line none op none, holds, h => by
    cases op with
    | not =>
      cases h
      exact (Misplaced.noOperand rfl).misplaces holds rfl
    | _ =>
      cases h
      exact (Misplaced.noLeft rfl).misplaces holds rfl
  | number .., _, h | string .., _, h | boolean .., _, h => by cases h
  | declaration .., holds, h | print .., holds, h | branch .., holds, h | loopUntil .., holds, h
  | loopFromTo .., holds, h | function .., holds, h | ret .., holds, h => by
    cases h
    exact (Misplaced.statement rfl).misplaces holds rfl
  | unsupported .., holds, h => by
    cases h
    exact Misplaced.unsupported.misplaces holds rfl

lemma misplaces_of_holds {n : Node} (holds : p.Holds .expression n)
    (fails : n.holds store = .error (.unsupported kind)) : p.Misplaces kind :=
  misplaces_of_evaluate holds (map_eq_error_iff.1 fails)

lemma misplaces_of_evaluateNumber {n : Node} {context : String} (holds : p.Holds .expression n)
    (fails : n.evaluateNumber store context = .error (.unsupported kind)) : p.Misplaces kind := by
  rcases bind_eq_error_iff.1 fails with fails | ⟨v, -, fails⟩
  · exact misplaces_of_evaluate holds fails
  · exact absurd fails ((v.requireNumber_failsByValues context).ne_unsupported kind)

lemma misplaces_of_printed {n : Node} (holds : p.Holds .expression n)
    (fails : n.printed store = .error (.unsupported kind)) : p.Misplaces kind := by
  by_cases h : ∃ line name, n = .identifier line name
  · obtain ⟨line, name, rfl⟩ := h
    rw [printed] at fails
    cases hget : store.get? name with
    | none => rw [hget] at fails; cases fails
    | some v => rw [hget] at fails; cases fails
  · rw [printed_of_ne fun line name heq => h ⟨line, name, heq⟩] at fails
    exact misplaces_of_evaluate holds (map_eq_error_iff.1 fails)

/-- A logical operator is to blame on a node only if one of its operands is. -/
lemma misplaces_of_logical {left right : Except Fault Bool} {f : Bool → Bool → Bool}
    (hleft : left = .error (.unsupported kind) → p.Misplaces kind)
    (hright : right = .error (.unsupported kind) → p.Misplaces kind)
    (fails : (do let a ← left; let b ← right; pure (f a b)) =
      (.error (.unsupported kind) : Except Fault Bool)) : p.Misplaces kind := by
  rcases bind_eq_error_iff.1 fails with fails | ⟨a, -, fails⟩
  · exact hleft fails
  rcases bind_eq_error_iff.1 fails with fails | ⟨b, -, fails⟩
  · exact hright fails
  · cases fails

/-- A negated condition evaluates parts of the condition, and no other nodes. -/
lemma misplaces_of_negated {n : Node} (holds : p.Holds .expression n)
    (fails : n.negated.holds store = .error (.unsupported kind)) : p.Misplaces kind := by
  induction n using Node.negated.induct with
  | case1 line value => cases fails
  | case2 line left operand =>
    rw [negated, holds_atLine] at fails
    exact misplaces_of_holds (holds.part .right) fails
  | case3 line operand =>
    rw [negated, holds_atLine] at fails
    exact misplaces_of_holds (holds.part .left) fails
  | case4 line left right ihl ihr | case5 line left right ihl ihr =>
    rw [negated, holds_logical rfl fun _ _ => rfl] at fails
    exact misplaces_of_logical (ihl (holds.part .left)) (ihr (holds.part .right)) fails
  | case6 line left op right notNot notAnd notOr flip flips =>
    rw [negated.eq_6 _ _ _ _ notNot notAnd notOr, flips] at fails
    have binary : flip.isUnary = false := by cases op <;> cases flips <;> rfl
    exact misplaces_of_operands binary (misplaces_of_evaluate (holds.part .left))
      (misplaces_of_evaluate (holds.part .right)) (map_eq_error_iff.1 fails)
  | case7 line left op right notNot notAnd notOr flips =>
    rw [negated.eq_6 _ _ _ _ notNot notAnd notOr, flips, holds_wrapped] at fails
    exact misplaces_of_holds holds (map_eq_error_iff.1 fails)
  | case8 n notBoolean notRight notLeft notAnd notOr notBinary =>
    rw [negated.eq_7 n notBoolean notRight notLeft notAnd notOr notBinary, holds_wrapped] at fails
    exact misplaces_of_holds holds (map_eq_error_iff.1 fails)

end Node

/-! ## Runs -/

lemma Store.counter_ne_unsupported (store : Store) (name kind : String) :
    store.counter name ≠ .error (.unsupported kind) := by
  intro fails
  rw [counter] at fails
  cases h : store.read name with
  | error cause =>
    rw [h] at fails
    cases fails
    exact Node.read_ne_unsupported store name h
  | ok v =>
    rw [h] at fails
    cases v <;> cases fails

/-- The condition of a loop, and the bound of a counting one, stand in the program. -/
def Guard.Within (p : Program) : Guard → Prop
  | conditional _ condition => p.Holds .expression condition
  | counting _ _ last => p.Holds .expression last

/-- The nodes of the code stand in the program. -/
def Code.Within (p : Program) : Code → Prop
  | statement n => p.Holds .statement n
  | block ns => ∀ n ∈ ns, p.Holds .statement n
  | rounds guard body _ => guard.Within p ∧ ∀ n ∈ body, p.Holds .statement n

/-- The nodes of the stage stand in the program. -/
def Stage.Within (p : Program) : Stage → Prop
  | statement n => p.Holds .statement n
  | check guard _ | advance guard => guard.Within p
  | ended => True

lemma Node.holds_of_mem_chosen {line : Option UInt32} {condition : Node} {result : Bool}
    {consequent : List Node} {alternate : Option (List Node)}
    (holds : p.Holds .statement (.branch line condition consequent alternate)) {n : Node}
    (mem : n ∈ Node.chosen result consequent alternate) : p.Holds .statement n := by
  cases result with
  | true => exact holds.part (.consequent mem)
  | false =>
    cases alternate with
    | none => cases mem
    | some ns => exact holds.part (.alternate mem)

/-- A run of code that stands in the program comes to nothing else. -/
lemma Reaches.within {budget code s stage log s'} (reaches : Reaches budget code s stage log s')
    (within : code.Within p) : stage.Within p := by
  induction reaches with
  | statement => exact within
  | branch checks _ ih => exact ih fun n mem => Node.holds_of_mem_chosen within mem
  | loopUntil _ ih =>
    have holds : p.Holds .statement _ := within
    exact ih ⟨holds.part .goal, fun n mem => holds.part (.repeated mem)⟩
  | loopFromTo starts sets _ ih =>
    have holds : p.Holds .statement _ := within
    exact ih ⟨holds.part .stop, fun n mem => holds.part (.counted mem)⟩
  | function _ ih =>
    have holds : p.Holds .statement _ := within
    exact ih fun n mem => holds.part (.body mem)
  | first _ ih => exact ih (within _ List.mem_cons_self)
  | next runs flow _ ih => exact ih fun n mem => within n (List.mem_cons_of_mem _ mem)
  | check => exact within.1
  | round checks _ ih => exact ih within.2
  | advance checks runs flow => exact within.1
  | again checks runs flow advances _ ih => exact ih within
  | ended runs => trivial

/-- A stage that halts for a node has a misplaced one of this kind to blame. -/
lemma Stage.Halts.misplaces {budget : Budget} {stage : Stage} {s : State} {kind : String}
    (halts : stage.Halts budget s (.fault (.unsupported kind))) (within : stage.Within p) :
    p.Misplaces kind := by
  generalize fault : Halt.fault (.unsupported kind) = halt at halts
  cases halts with
  | declaration fails =>
    cases fault
    exact Node.misplaces_of_evaluate (.part within .declared) fails
  | print fails =>
    cases fault
    exact Node.misplaces_of_printed (.part within .printed) fails
  | branch fails =>
    cases fault
    exact Node.misplaces_of_holds (.part within .condition) fails
  | loopFromTo fails =>
    cases fault
    exact Node.misplaces_of_evaluateNumber (.part within .start) fails
  | misplaced expression =>
    cases fault
    exact (Node.Misplaced.expression expression).misplaces within rfl
  | @check guard left s cause fails =>
    cases fault
    cases guard with
    | conditional line condition => exact Node.misplaces_of_negated within fails
    | counting line counter last =>
      rcases bind_eq_error_iff.1 fails with fails | ⟨x, -, fails⟩
      · exact absurd fails (Store.counter_ne_unsupported _ counter kind)
      rcases bind_eq_error_iff.1 fails with fails | ⟨y, -, fails⟩
      · exact Node.misplaces_of_evaluateNumber within fails
      · cases fails
  | overrun => cases budget <;> cases fault
  | @advance guard s cause fails =>
    cases fault
    cases guard with
    | conditional line condition => cases fails
    | counting line counter last =>
      rcases bind_eq_error_iff.1 fails with fails | ⟨x, -, fails⟩
      · exact absurd fails (Store.counter_ne_unsupported _ counter kind)
      · cases fails

/-! ## Surveys -/

/-- What is there already stays behind what is added. -/
def Appends (add : List Node → List Node) : Prop :=
  ∀ done, add done = add [] ++ done

namespace Appends

variable {add add' : List Node → List Node}

lemma cons (n : Node) : Appends (n :: ·) :=
  fun _ => rfl

lemma comp (h : Appends add) (h' : Appends add') : Appends fun done => add' (add done) := by
  intro done
  dsimp only
  rw [h' (add done), h done, h' (add []), List.append_assoc]

lemma mem_iff (h : Appends add) {n : Node} {done : List Node} :
    n ∈ add done ↔ n ∈ add [] ∨ n ∈ done := by
  rw [h done, List.mem_append]

end Appends

namespace Node

mutual

lemma appends_nodesOnto : ∀ n : Node, Appends (nodesOnto · n)
  | declaration _ _ value | print _ value | ret _ value =>
    (Appends.cons _).comp (appends_nodesOnto value)
  | branch _ condition consequent none =>
    ((Appends.cons _).comp (appends_nodesOnto condition)).comp (appends_nodesOfOnto consequent)
  | branch _ condition consequent (some alternate) =>
    (((Appends.cons _).comp (appends_nodesOnto condition)).comp
      (appends_nodesOfOnto consequent)).comp (appends_nodesOfOnto alternate)
  | loopUntil _ condition body =>
    ((Appends.cons _).comp (appends_nodesOnto condition)).comp (appends_nodesOfOnto body)
  | loopFromTo _ _ first last body =>
    (((Appends.cons _).comp (appends_nodesOnto first)).comp (appends_nodesOnto last)).comp
      (appends_nodesOfOnto body)
  | function _ _ _ body => (Appends.cons _).comp (appends_nodesOfOnto body)
  | expression _ left _ right =>
    ((Appends.cons _).comp (appends_nodesOfOptionOnto left)).comp (appends_nodesOfOptionOnto right)
  | substring _ _ first last =>
    ((Appends.cons _).comp (appends_nodesOnto first)).comp (appends_nodesOnto last)
  | identifier .. | number .. | string .. | boolean .. | length .. | unsupported .. =>
    Appends.cons _

lemma appends_nodesOfOnto : ∀ ns : List Node, Appends (nodesOfOnto · ns)
  | [] => fun _ => rfl
  | n :: ns => (appends_nodesOnto n).comp (appends_nodesOfOnto ns)

lemma appends_nodesOfOptionOnto : ∀ n : Option Node, Appends (nodesOfOptionOnto · n)
  | none => fun _ => rfl
  | some n => appends_nodesOnto n

end

/-- The node and all the nodes inside it. -/
def nodes (n : Node) : List Node :=
  nodesOnto [] n

@[simp] lemma mem_nodesOnto {n m : Node} {done : List Node} :
    m ∈ nodesOnto done n ↔ m ∈ n.nodes ∨ m ∈ done :=
  (appends_nodesOnto n).mem_iff

@[simp] lemma mem_nodesOfOnto {m : Node} {ns done : List Node} :
    m ∈ nodesOfOnto done ns ↔ (∃ n ∈ ns, m ∈ n.nodes) ∨ m ∈ done := by
  induction ns generalizing done with
  | nil => simp [nodesOfOnto]
  | cons n ns ih =>
    rw [nodesOfOnto, ih, mem_nodesOnto, ← or_assoc, or_comm (b := m ∈ n.nodes)]
    simp

@[simp] lemma mem_nodesOfOptionOnto {n m : Node} {done : List Node} :
    m ∈ nodesOfOptionOnto done (some n) ↔ m ∈ n.nodes ∨ m ∈ done :=
  mem_nodesOnto

lemma self_mem_nodes (n : Node) : n ∈ n.nodes := by
  show n ∈ nodesOnto [] n
  cases n with
  | branch line condition consequent alternate => cases alternate <;> simp [nodesOnto]
  | expression line left op right => cases left <;> cases right <;> simp [nodesOnto, nodesOfOptionOnto]
  | _ => simp [nodesOnto]

lemma Part.nodes_subset {n m : Node} {role : Role} (part : n.Part role m) : m.nodes ⊆ n.nodes := by
  intro k hk
  have inside : ∀ {ns : List Node}, m ∈ ns → ∃ n ∈ ns, k ∈ n.nodes := fun mem => ⟨m, mem, hk⟩
  show k ∈ nodesOnto [] n
  cases part with
  | @condition _ _ _ alternate => cases alternate <;> simp [nodesOnto, hk]
  | @consequent _ _ _ alternate _ mem => cases alternate <;> simp [nodesOnto, inside mem]
  | alternate mem | repeated mem | counted mem | body mem => simp [nodesOnto, inside mem]
  | @left _ _ _ right => cases right <;> simp [nodesOnto, nodesOfOptionOnto, hk]
  | declared | printed | goal | start | stop | right | first | last => simp [nodesOnto, hk]

/-- Every node but an unsupported one is of a kind that a document can name. -/
lemma stranger_or_tag (n : Node) :
    (∃ line kind, n = .unsupported line kind) ∨ ∃ tag, n.kind = Tag.name tag := by
  cases n with
  | unsupported line kind => exact .inl ⟨line, kind, rfl⟩
  | _ =>
    rw [kind]
    exact .inr ⟨_, rfl⟩

end Node

namespace Program

lemma Holds.nodes_subset {role : Role} {n : Node} (holds : p.Holds role n) : n.nodes ⊆ p.nodes := by
  induction holds with
  | statement mem =>
    intro k hk
    rw [Program.nodes, List.mem_reverse, Node.mem_nodesOfOnto]
    exact .inl ⟨_, mem, hk⟩
  | part _ part ih => exact fun k hk => ih (part.nodes_subset hk)

/-- The survey counts the nodes of a program wherever they stand. -/
lemma Holds.mem_nodes {role : Role} {n : Node} (holds : p.Holds role n) : n ∈ p.nodes :=
  holds.nodes_subset n.self_mem_nodes

lemma mem_unsupported_ofProgram {line : Option UInt32} {kind : String} :
    (line, kind) ∈ (Survey.ofProgram p).unsupported ↔ .unsupported line kind ∈ p.nodes := by
  rw [Survey.ofProgram, List.mem_filterMap]
  constructor
  · rintro ⟨n, mem, heq⟩
    cases n with
    | unsupported => cases heq; exact mem
    | _ => cases heq
  · exact fun mem => ⟨_, mem, rfl⟩

variable {budget : Budget} {clock : Clock} {kind : String}

lemma misplaces_of_trace (fails : p.trace budget clock = .error (.fault (.unsupported kind))) :
    p.Misplaces kind := by
  obtain ⟨stage, log, s, reaches, halts⟩ := trace_eq_error_iff.1 fails
  exact halts.misplaces (reaches.within fun n mem => .statement mem)

/-- If a program fails for an unsupported node, then a node of this kind is misplaced in it, and the
survey of the program lists it if it is not supported. So a program where every node is in its place
never fails for one, and where the survey lists none, the fault names a kind that a document can name.
The text of a document fails, and is surveyed, as the program that it writes. -/
theorem trace_unsupported (p : Program) (budget : Budget) (clock : Clock) :
    (∀ kind, p.trace budget clock = .error (.fault (.unsupported kind)) →
      ∃ role n, p.Holds role n ∧ n.Misplaced role ∧ n.kind = kind ∧ n ∈ p.nodes ∧
        ∀ line, n = .unsupported line kind → (line, kind) ∈ (Survey.ofProgram p).unsupported) ∧
    ((∀ role n, p.Holds role n → ¬ n.Misplaced role) →
      ∀ kind, p.trace budget clock ≠ .error (.fault (.unsupported kind))) ∧
    ((Survey.ofProgram p).unsupported = [] →
      ∀ kind, p.trace budget clock = .error (.fault (.unsupported kind)) → ∃ tag, kind = Tag.name tag) ∧
    ∀ text, ofText? text = some p → traceText budget clock text = p.trace budget clock ∧
      Survey.ofText? text = some (Survey.ofProgram p) := by
  refine ⟨fun kind fails => ?_, fun placed kind fails => ?_, fun clean kind fails => ?_,
    fun text reads => ?_⟩
  · obtain ⟨role, n, holds, misplaced, hkind⟩ := misplaces_of_trace fails
    refine ⟨role, n, holds, misplaced, hkind, holds.mem_nodes, fun line heq => ?_⟩
    exact mem_unsupported_ofProgram.2 (heq ▸ holds.mem_nodes)
  · obtain ⟨role, n, holds, misplaced, -⟩ := misplaces_of_trace fails
    exact placed role n holds misplaced
  · obtain ⟨role, n, holds, -, hkind⟩ := misplaces_of_trace fails
    rcases n.stranger_or_tag with ⟨line, kind', rfl⟩ | ⟨tag, htag⟩
    · have listed := mem_unsupported_ofProgram.2 holds.mem_nodes
      rw [clean] at listed
      cases listed
    · exact ⟨tag, hkind.symm.trans htag⟩
  · exact ⟨by rw [traceText, reads], by rw [Survey.ofText?, reads]; rfl⟩

end Program

/-- A loop that goes on until a variable holds and a statement does. -/
def printsInCondition : Program where
  statements := [
    .declaration (some 1) "x" (.boolean none true),
    .loopUntil (some 2)
      (.expression none (some (.identifier none "x")) .and
        (some (.print (some 3) (.identifier none "x")))) []]

/-- The negated condition of `printsInCondition` is not evaluated for the statement in it. -/
theorem trace_unsupported_printsInCondition :
    (∃ role n, printsInCondition.Holds role n ∧ n.Misplaced role ∧ n.kind = "PrintStatement" ∧
      n ∈ printsInCondition.nodes) ∧ ∃ tag, "PrintStatement" = Tag.name tag := by
  obtain ⟨blames, -, named, -⟩ := printsInCondition.trace_unsupported (.limit 5) (.steps 0 1)
  obtain ⟨role, n, holds, misplaced, hkind, mem, -⟩ := blames "PrintStatement" rfl
  exact ⟨⟨role, n, holds, misplaced, hkind, mem⟩, named rfl "PrintStatement" rfl⟩

end Playback
