import Playback.Proofs.Lexemes

/-!
# Reading conditions

The lexemes of a condition are read back as the condition, as far as they tell it: `Node.plain` has no
lines, no sign of zero, and one grouping of the operators that may be regrouped, the one from the left.

A substring ends in a bound, and nothing shows where this bound ends. What is read depends on a level
`p` for that: an operator that binds at least as strongly belongs to the bound. `Node.Bounded p` says
that a condition means it so.

Main statements: lexemes are read in one way at most (`Reads.unique`), and a readable condition is read
back as its plain form, whatever may follow it (`Node.readsBack`).
-/

namespace Playback

/-! ## The part of the conditions that is read -/

namespace Node

/-- The node is an expression of names, literals and operations with their operands, and all of it has
the property. -/
inductive Throughout (P : Node → Prop) : Node → Prop where
  | identifier {line name} (h : P (.identifier line name)) : Throughout P (.identifier line name)
  | number {line value} (h : P (.number line value)) : Throughout P (.number line value)
  | string {line value} (h : P (.string line value)) : Throughout P (.string line value)
  | boolean {line value} (h : P (.boolean line value)) : Throughout P (.boolean line value)
  | length {line source} (h : P (.length line source)) : Throughout P (.length line source)
  | substring {line source first last} (h : P (.substring line source first last))
      (hfirst : Throughout P first) (hlast : Throughout P last) :
      Throughout P (.substring line source first last)
  | notRight {line left operand} (h : P (.expression line left .not (some operand)))
      (hoperand : Throughout P operand) : Throughout P (.expression line left .not (some operand))
  | notLeft {line operand} (h : P (.expression line (some operand) .not none))
      (hoperand : Throughout P operand) : Throughout P (.expression line (some operand) .not none)
  | binary {line left op right} (binary : op.isUnary = false)
      (h : P (.expression line (some left) op (some right)))
      (hleft : Throughout P left) (hright : Throughout P right) :
      Throughout P (.expression line (some left) op (some right))

/-- The names and the literals of a node can be told from the other words. -/
def Spelled : Node → Prop
  | identifier _ name => IsName name
  | number _ value => value.isFinite = true
  | string _ value => '"' ∉ value.toList
  | length _ source | substring _ source _ _ => IsName source
  | _ => True

/-- The node is no operation between two operands that binds less strongly than `m`. -/
def Binds (m : Nat) (n : Node) : Prop :=
  ∀ child, n.binaryOperator? = some child → m ≤ child.precedence

/-- The operand stands between parentheses. -/
def isEnclosed (parent : Operator) (onRight : Bool) (operand : Node) : Bool :=
  match operand.binaryOperator? with
  | some child => parent.encloses child onRight
  | none => false

/-- The text ends in the last bound of a substring. -/
def endsOpen : Node → Bool
  | substring .. => true
  | expression _ left op right =>
    match right with
    | some r => !r.isEnclosed op true && r.endsOpen
    | none =>
      match left with
      | some l => !l.isEnclosed op true && l.endsOpen
      | none => false
  | _ => false

/-- The last bound of a substring has no operator below the level `p` outside parentheses, and no
other operator follows it. -/
def Bounded (p : Nat) : Node → Prop
  | substring _ _ _ last => last.Binds p
  | expression _ (some left) op (some _) =>
    op.isUnary = false → left.isEnclosed op false = false → left.endsOpen = true → op.precedence < p
  | _ => True

/-- The node can be told from its text, but for the sign of zero and for the grouping. -/
structure Legible (p : Nat) (n : Node) : Prop where
  spelled : n.Spelled
  bounded : n.Bounded p

/-- The node can be told from its lexemes, but for the sign of zero and for the grouping. -/
structure Readable (p : Nat) (n : Node) : Prop where
  finite : ∀ line value, n = .number line value → value.isFinite = true
  bounded : n.Bounded p

lemma Legible.readable {p : Nat} {n : Node} (h : n.Legible p) : n.Readable p := by
  refine ⟨fun line value number => ?_, h.bounded⟩
  subst number
  exact h.spelled

/-! ## Plain conditions -/

/-- An operation, where the right operand has been regrouped already. -/
def graft (op : Operator) (left : Node) : Node → Node
  | expression line (some l) child (some r) =>
    if op.regroups ∧ child.precedence = op.precedence then
      expression line (some (graft op left l)) child (some r)
    else expression none (some left) op (some (expression line (some l) child (some r)))
  | n => expression none (some left) op (some n)

/-- The condition that is read off the text. -/
def plain : Node → Node
  | identifier _ name => identifier none name
  | number _ value => number none (if value = -0.0 then 0.0 else value)
  | string _ value => string none value
  | boolean _ value => boolean none value
  | length _ source => length none source
  | substring _ source first last => substring none source first.plain last.plain
  | expression _ left op right =>
    if op.isUnary then
      match right with
      | some r => expression none none op (some r.plain)
      | none =>
        match left with
        | some l => expression none none op (some l.plain)
        | none => expression none none op none
    else
      match left with
      | some l =>
        match right with
        | some r => graft op l.plain r.plain
        | none => expression none (some l.plain) op none
      | none => expression none none op right
  | n => n

/-! ## Lexemes -/

/-- The lexemes of an operand, between parentheses where the parent needs them. -/
def bracketed (parent : Operator) (onRight : Bool) (operand : Node) (ts : List Lexeme) :
    List Lexeme :=
  if operand.isEnclosed parent onRight then .opening :: (ts ++ [.closing]) else ts

mutual

/-- The lexemes of the text of an expression. -/
def lexemes : Node → List Lexeme
  | identifier _ name => [.name name]
  | number _ value => [.number (numberText value)]
  | string _ value => [.quoted value]
  | boolean _ value => [.truth value]
  | length _ source => [.lengthWord, .ofWord, .name source]
  | substring _ source first last =>
    .substringWord :: .ofWord :: .name source :: .fromWord ::
      (first.lexemes ++ .toWord :: last.lexemes)
  | expression _ left op right =>
    if op.isUnary then
      match right with
      | some _ => .bang :: operandLexemes op true right
      | none => .bang :: operandLexemes op true left
    else operandLexemes op false left ++ .operator op :: operandLexemes op true right
  | _ => []

/-- The lexemes of an operand that may be absent. -/
def operandLexemes (parent : Operator) (onRight : Bool) : Option Node → List Lexeme
  | none => []
  | some n => bracketed parent onRight n n.lexemes

end

section

variable {op : Operator} (line : Option UInt32)

@[simp] lemma lexemes_not_right (left : Option Node) (operand : Node) :
    (expression line left .not (some operand)).lexemes =
      .bang :: bracketed .not true operand operand.lexemes := by
  simp only [lexemes, operandLexemes, Operator.isUnary, beq_self_eq_true, if_true]

@[simp] lemma lexemes_not_left (operand : Node) :
    (expression line (some operand) .not none).lexemes =
      .bang :: bracketed .not true operand operand.lexemes := by
  simp only [lexemes, operandLexemes, Operator.isUnary, beq_self_eq_true, if_true]

lemma lexemes_binary (binary : op.isUnary = false) (left right : Node) :
    (expression line (some left) op (some right)).lexemes =
      bracketed op false left left.lexemes ++
        .operator op :: bracketed op true right right.lexemes := by
  simp only [lexemes, operandLexemes, binary, Bool.false_eq_true, if_false]

@[simp] lemma plain_not_right (left : Option Node) (operand : Node) :
    (expression line left .not (some operand)).plain =
      expression none none .not (some operand.plain) := by
  cases left <;> rfl

@[simp] lemma plain_not_left (operand : Node) :
    (expression line (some operand) .not none).plain =
      expression none none .not (some operand.plain) := by
  rfl

lemma plain_binary (binary : op.isUnary = false) (left right : Node) :
    (expression line (some left) op (some right)).plain = graft op left.plain right.plain := by
  simp only [plain, binary, Bool.false_eq_true, if_false]

lemma binaryOperator?_binary (binary : op.isUnary = false) (left right : Option Node) :
    (expression line left op right).binaryOperator? = some op := by
  simp only [binaryOperator?, binary, Bool.false_eq_true, if_false]

end

/-! ## Regrouping -/

/-- Regrouping twice is regrouping once: the operators are applied from left to right. -/
lemma graft_graft {op child : Operator} (regroups : op.regroups = true)
    (same : child.precedence = op.precedence) (left middle : Node) :
    ∀ right, graft op left (graft child middle right) = graft child (graft op left middle) right
  | expression line (some l) next (some r) => by
    by_cases h : child.regroups = true ∧ next.precedence = child.precedence
    · have h' : op.regroups = true ∧ next.precedence = op.precedence := ⟨regroups, h.2.trans same⟩
      have ih := graft_graft regroups same left middle l
      rw [graft, if_pos h, graft, if_pos h', ih, graft, if_pos h]
    · rw [graft, if_neg h, graft, if_pos ⟨regroups, same⟩]
      conv_rhs => rw [graft, if_neg h]
  | expression _ none _ _ | expression _ (some _) _ none | identifier .. | number .. | string ..
  | boolean .. | length .. | substring .. | declaration .. | print .. | branch .. | loopUntil ..
  | loopFromTo .. | function .. | ret .. | unsupported .. => by
    simp only [graft, regroups, same, and_self, if_true]

lemma graft_of_apart {op : Operator} {left right : Node}
    (apart : ∀ line l child r, right = expression line (some l) child (some r) →
      ¬ (op.regroups = true ∧ child.precedence = op.precedence)) :
    graft op left right = expression none (some left) op (some right) := by
  unfold graft
  split
  · next line l child r => rw [if_neg (apart line l child r rfl)]
  · rfl

/-- Regrouping keeps how strongly an operation binds. -/
lemma exists_graft_eq (op : Operator) (left right : Node) : ∃ line l child r,
    graft op left right = expression line (some l) child (some r) ∧
      child.precedence = op.precedence := by
  unfold graft
  split
  · next line l child r =>
    split
    · next same => exact ⟨line, _, child, r, rfl, same.2⟩
    · exact ⟨none, left, op, _, rfl, rfl⟩
  · exact ⟨none, left, op, _, rfl, rfl⟩

/-- A plain operation between two operands comes from one that binds as strongly. -/
lemma Throughout.of_plain {P : Node → Prop} {n : Node} (h : n.Throughout P) {line : Option UInt32}
    {l r : Node} {child : Operator} (hplain : n.plain = expression line (some l) child (some r)) :
    ∃ op, n.binaryOperator? = some op ∧ op.precedence = child.precedence := by
  cases h with
  | @binary _ left op right binary =>
    rw [plain_binary _ binary] at hplain
    obtain ⟨_, _, child', _, heq, same⟩ := exists_graft_eq op left.plain right.plain
    rw [heq] at hplain
    cases hplain
    exact ⟨op, binaryOperator?_binary _ binary _ _, same.symm⟩
  | notRight => rw [plain_not_right] at hplain; cases hplain
  | notLeft => rw [plain_not_left] at hplain; cases hplain
  | identifier | number | string | boolean | length | substring => cases hplain

lemma Throughout.graft_eq {P : Node → Prop} {n : Node} (h : n.Throughout P) {op : Operator}
    (apart : op.regroups = true → ∀ child, n.binaryOperator? = some child →
      child.precedence ≠ op.precedence) (left : Node) :
    graft op left n.plain = expression none (some left) op (some n.plain) := by
  refine graft_of_apart fun line l child r hplain ⟨regroups, same⟩ => ?_
  obtain ⟨op', hop', same'⟩ := h.of_plain hplain
  exact apart regroups op' hop' (same'.trans same)

end Node

/-! ## Reading -/

/-- No operator that binds as strongly as `m` comes next. -/
def Below (m : Nat) (ts : List Lexeme) : Prop :=
  ∀ op rest, ts = .operator op :: rest → op.precedence < m

/-- What is read. -/
inductive Goal where
  /-- A name, a literal, or what is enclosed or stands behind a word or `!`. -/
  | operand
  /-- Operations whose operators bind at least as strongly as `m`. -/
  | expression (m : Nat)
  /-- What is left of such operations behind the first operands. -/
  | behind (m : Nat) (left : Node)

/-- A plain condition is read off the beginning of the lexemes, and the rest is left. A last bound of a
substring has the operators that bind at least as strongly as `p`. -/
inductive Reads (p : Nat) : Goal → List Lexeme → Node → List Lexeme → Prop where
  | name {s ts} : Reads p .operand (.name s :: ts) (.identifier none s) ts
  | number {s x ts} (finite : x.isFinite = true) (h0 : x ≠ -0.0) (shown : numberText x = s) :
      Reads p .operand (.number s :: ts) (.number none x) ts
  | quoted {s ts} : Reads p .operand (.quoted s :: ts) (.string none s) ts
  | truth {b ts} : Reads p .operand (.truth b :: ts) (.boolean none b) ts
  | length {s ts} : Reads p .operand (.lengthWord :: .ofWord :: .name s :: ts) (.length none s) ts
  | substring {s ts first ts' last rest} (hfirst : Reads p (.expression 0) ts first (.toWord :: ts'))
      (hlast : Reads p (.expression p) ts' last rest) :
      Reads p .operand (.substringWord :: .ofWord :: .name s :: .fromWord :: ts)
        (.substring none s first last) rest
  | not {ts n rest} (h : Reads p .operand ts n rest) :
      Reads p .operand (.bang :: ts) (.expression none none .not (some n)) rest
  | enclosed {ts n rest} (h : Reads p (.expression 0) ts n (.closing :: rest)) :
      Reads p .operand (.opening :: ts) n rest
  | start {m ts n ts' n' rest} (h : Reads p .operand ts n ts')
      (goes : Reads p (.behind m n) ts' n' rest) : Reads p (.expression m) ts n' rest
  | stop {m n ts} (below : Below m ts) : Reads p (.behind m n) ts n ts
  | operation {m left op ts right ts' n rest} (binds : m ≤ op.precedence)
      (h : Reads p (.expression (op.precedence + 1)) ts right ts')
      (goes : Reads p (.behind m (.expression none (some left) op (some right))) ts' n rest) :
      Reads p (.behind m left) (.operator op :: ts) n rest

/-- What is read, and what is left, is told by the lexemes. -/
theorem Reads.unique {p : Nat} {goal : Goal} {ts rest rest' : List Lexeme} {n n' : Node}
    (h : Reads p goal ts n rest) (h' : Reads p goal ts n' rest') : n' = n ∧ rest' = rest := by
  -- the first lexeme tells the rule; between `stop` and `operation`, it is how the operator binds
  induction h generalizing n' rest' with
  | name | quoted | truth | length =>
    cases h'
    exact ⟨rfl, rfl⟩
  | number finite h0 shown =>
    cases h' with
    | number finite' h0' shown' =>
      rw [numberText_injective finite' finite h0' h0 (shown'.trans shown.symm)]
      exact ⟨rfl, rfl⟩
  | substring _ _ ihfirst ihlast =>
    cases h' with
    | substring hfirst hlast =>
      obtain ⟨rfl, heq⟩ := ihfirst hfirst
      cases heq
      obtain ⟨rfl, rfl⟩ := ihlast hlast
      exact ⟨rfl, rfl⟩
  | not _ ih =>
    cases h' with
    | not h =>
      obtain ⟨rfl, rfl⟩ := ih h
      exact ⟨rfl, rfl⟩
  | enclosed _ ih =>
    cases h' with
    | enclosed h =>
      obtain ⟨rfl, heq⟩ := ih h
      cases heq
      exact ⟨rfl, rfl⟩
  | start _ _ ih ihgoes =>
    cases h' with
    | start h goes =>
      obtain ⟨rfl, rfl⟩ := ih h
      exact ihgoes goes
  | stop below =>
    cases h' with
    | stop => exact ⟨rfl, rfl⟩
    | operation binds => exact absurd (below _ _ rfl) (Nat.not_lt.2 binds)
  | operation binds _ _ ih ihgoes =>
    cases h' with
    | stop below => exact absurd (below _ _ rfl) (Nat.not_lt.2 binds)
    | operation _ h goes =>
      obtain ⟨rfl, rfl⟩ := ih h
      exact ihgoes goes

/-! ## Reading back -/

lemma Operator.precedence_le (op : Operator) : op.precedence ≤ 6 := by
  cases op <;> decide

section

variable {m m' : Nat} {rest : List Lexeme}

lemma Below.mono (h : Below m rest) (le : m ≤ m') : Below m' rest :=
  fun op ts heq => Nat.lt_of_lt_of_le (h op ts heq) le

lemma below_closing (m : Nat) (rest : List Lexeme) : Below m (.closing :: rest) :=
  fun _ _ => nofun

lemma below_toWord (m : Nat) (rest : List Lexeme) : Below m (.toWord :: rest) :=
  fun _ _ => nofun

lemma below_nil (m : Nat) : Below m [] :=
  fun _ _ => nofun

lemma below_operator {op : Operator} (h : op.precedence < m) : Below m (.operator op :: rest) := by
  intro op' ts heq
  cases heq
  exact h

end

namespace Node

variable {p : Nat} {n : Node}

/-- The rest does not go on with the node: no operator there takes the node for an operand of its own
operands, or of a bound that the node ends in. -/
def Followed (p : Nat) (n : Node) (rest : List Lexeme) : Prop :=
  (∀ child, n.binaryOperator? = some child → Below (child.precedence + 1) rest) ∧
    (n.endsOpen = true → Below p rest)

lemma followed_closing (n : Node) (rest : List Lexeme) : n.Followed p (.closing :: rest) :=
  ⟨fun _ _ => below_closing _ _, fun _ => below_closing _ _⟩

/-- A left operand without parentheses binds at least as strongly as its operator. -/
lemma binds_of_left {op : Operator} (h : n.isEnclosed op false = false) : n.Binds op.precedence := by
  intro child hchild
  simp only [isEnclosed, hchild, Operator.encloses] at h
  split at h
  · next same => exact Nat.le_of_eq same.symm
  · exact Nat.not_lt.1 (of_decide_eq_false h)

/-- A right operand without parentheses binds more strongly than its operator, unless it is regrouped. -/
lemma binds_of_right {op : Operator} (h : n.isEnclosed op true = false)
    (apart : op.regroups = true → ∀ child, n.binaryOperator? = some child →
      child.precedence ≠ op.precedence) : n.Binds (op.precedence + 1) := by
  intro child hchild
  simp only [isEnclosed, hchild, Operator.encloses] at h
  split at h
  · next same =>
    have regroups : op.regroups = true := by simpa using h
    exact absurd same (apart regroups child hchild)
  · next other =>
    have := of_decide_eq_false h
    omega

/-- Where the operators around it may be regrouped, it is the same for a node to stand on the right of
the first one and on the left of the second one. -/
lemma isEnclosed_regrouped (n : Node) {parent op : Operator} (regroups : parent.regroups = true)
    (same : op.precedence = parent.precedence) : n.isEnclosed op false = n.isEnclosed parent true := by
  unfold isEnclosed
  cases n.binaryOperator? with
  | none => rfl
  | some child => simp [Operator.encloses, same, regroups]

lemma bracketed_regrouped (n : Node) {parent op : Operator} (regroups : parent.regroups = true)
    (same : op.precedence = parent.precedence) {ts : List Lexeme} :
    bracketed op false n ts = bracketed parent true n ts := by
  rw [bracketed, bracketed, isEnclosed_regrouped n regroups same]

/-- In front of what may follow it, the node is read and left behind. -/
def ReadsAlone (p : Nat) (n : Node) : Prop :=
  ∀ m rest n' rest', n.Binds m → n.Followed p rest → Reads p (.behind m n.plain) rest n' rest' →
    Reads p (.expression m) (n.lexemes ++ rest) n' rest'

/-- Behind an operator, the node is read as its right operand, or regrouped. -/
def ReadsRight (p : Nat) (n : Node) (op : Operator) : Prop :=
  ∀ left m rest n' rest', m ≤ op.precedence → Below (op.precedence + 1) rest →
    (n.isEnclosed op true = false → n.endsOpen = true → Below p rest) →
    Reads p (.behind m (graft op left n.plain)) rest n' rest' →
    Reads p (.behind m left) (.operator op :: (bracketed op true n n.lexemes ++ rest)) n' rest'

/-- The node is read back as it is, wherever it stands. -/
structure ReadsBack (p : Nat) (n : Node) : Prop where
  operand : n.binaryOperator? = none → ∀ rest, n.Followed p rest →
    Reads p .operand (n.lexemes ++ rest) n.plain rest
  alone : n.ReadsAlone p
  right : ∀ op, op.isUnary = false → n.ReadsRight p op

/-- What is enclosed is read whatever it is. -/
lemma ReadsAlone.enclosed (alone : n.ReadsAlone p) (rest : List Lexeme) :
    Reads p .operand (.opening :: (n.lexemes ++ [.closing]) ++ rest) n.plain rest := by
  rw [List.cons_append, List.append_assoc]
  exact .enclosed (alone _ _ _ _ (fun _ _ => Nat.zero_le _) (followed_closing n rest)
    (.stop (below_closing 0 rest)))

/-- A left operand is read, and what is behind it is read with it. -/
lemma ReadsAlone.left (alone : n.ReadsAlone p) {op : Operator} {m : Nat}
    {rest rest' : List Lexeme} {n' : Node} (binds : m ≤ op.precedence)
    (closes : n.isEnclosed op false = false → n.endsOpen = true → op.precedence < p)
    (goes : Reads p (.behind m n.plain) (.operator op :: rest) n' rest') :
    Reads p (.expression m) (bracketed op false n n.lexemes ++ .operator op :: rest) n' rest' := by
  cases henclosed : n.isEnclosed op false with
  | true =>
    rw [bracketed, if_pos henclosed]
    exact .start (alone.enclosed _) goes
  | false =>
    have tight := binds_of_left henclosed
    rw [bracketed, henclosed, if_neg Bool.false_ne_true]
    refine alone _ _ _ _ (fun child hchild => Nat.le_trans binds (tight child hchild)) ⟨?_, ?_⟩ goes
    · intro child hchild
      exact below_operator (Nat.lt_succ_of_le (tight child hchild))
    · intro opens
      exact below_operator (closes henclosed opens)

/-- A right operand that is not regrouped is read between its operator and the next one. -/
lemma ReadsAlone.right (alone : n.ReadsAlone p) {P : Node → Prop} (h : n.Throughout P)
    {op : Operator} (apart : op.regroups = true → ∀ child, n.binaryOperator? = some child →
      child.precedence ≠ op.precedence) : n.ReadsRight p op := by
  intro left m rest n' rest' binds below closes goes
  rw [h.graft_eq apart] at goes
  cases henclosed : n.isEnclosed op true with
  | true =>
    rw [bracketed, if_pos henclosed]
    exact .operation binds (.start (alone.enclosed _) (.stop below)) goes
  | false =>
    have tight := binds_of_right henclosed apart
    rw [bracketed, henclosed, if_neg Bool.false_ne_true]
    refine .operation binds (alone _ _ _ _ tight ⟨?_, closes henclosed⟩ (.stop below)) goes
    intro child hchild
    exact below.mono (Nat.le_succ_of_le (tight child hchild))

/-- A node that is no operation between two operands is read as an operand everywhere. -/
lemma ReadsBack.of_operand {P : Node → Prop} (h : n.Throughout P) (single : n.binaryOperator? = none)
    (operand : ∀ rest, n.Followed p rest → Reads p .operand (n.lexemes ++ rest) n.plain rest) :
    n.ReadsBack p := by
  have alone : n.ReadsAlone p := fun m rest n' rest' _ followed goes =>
    .start (operand rest followed) goes
  refine ⟨fun _ => operand, alone, fun op _ => alone.right h fun _ child hchild => ?_⟩
  rw [single] at hchild
  cases hchild

/-- What `!` stands before is read as an operand. -/
lemma ReadsBack.bang (back : n.ReadsBack p) (rest : List Lexeme)
    (closes : n.isEnclosed .not true = false → n.endsOpen = true → Below p rest) :
    Reads p .operand (.bang :: bracketed .not true n n.lexemes ++ rest)
      (expression none none .not (some n.plain)) rest := by
  cases henclosed : n.isEnclosed .not true with
  | true =>
    rw [bracketed, if_pos henclosed]
    exact .not (back.alone.enclosed rest)
  | false =>
    have tight := binds_of_right henclosed nofun
    have single : n.binaryOperator? = none := by
      cases hchild : n.binaryOperator? with
      | none => rfl
      | some child => exact absurd (tight child hchild) (Nat.not_lt.2 child.precedence_le)
    rw [bracketed, henclosed, if_neg Bool.false_ne_true]
    refine .not (back.operand single rest ⟨?_, closes henclosed⟩)
    intro child hchild
    rw [single] at hchild
    cases hchild

/-- An operation is read back when its operands are. -/
lemma ReadsBack.binary {P : Node → Prop} {line : Option UInt32} {op : Operator} {left right : Node}
    (h : (expression line (some left) op (some right)).Throughout P) (binary : op.isUnary = false)
    (hleft : left.ReadsBack p) (hright : right.ReadsBack p)
    (closes : left.isEnclosed op false = false → left.endsOpen = true → op.precedence < p) :
    (expression line (some left) op (some right)).ReadsBack p := by
  have operator := binaryOperator?_binary line binary (some left) (some right)
  have alone : (expression line (some left) op (some right)).ReadsAlone p := by
    intro m rest n' rest' binds followed goes
    rw [plain_binary line binary] at goes
    rw [lexemes_binary line binary, List.append_assoc, List.cons_append]
    refine hleft.alone.left (binds op operator) closes ?_
    refine hright.right op binary _ _ _ _ _ (binds op operator) (followed.1 op operator) ?_ goes
    exact fun henclosed opens => followed.2 (by simp [endsOpen, henclosed, opens])
  refine ⟨fun single => ?_, alone, fun parent hparent => ?_⟩
  · rw [operator] at single
    cases single
  · by_cases same : parent.regroups = true ∧ op.precedence = parent.precedence
    · -- the operator is no longer that of a right operand: what is on the left of it is grouped with
      -- its left operand first, and the result with the right one
      obtain ⟨regroups, same⟩ := same
      have notEnclosed :
          (expression line (some left) op (some right)).isEnclosed parent true = false := by
        simp [isEnclosed, operator, Operator.encloses, same, regroups]
      intro outer m rest n' rest' binds below closes' goes
      rw [plain_binary line binary, graft_graft regroups same] at goes
      rw [bracketed, notEnclosed, if_neg Bool.false_ne_true, lexemes_binary line binary,
        List.append_assoc, List.cons_append, bracketed_regrouped left regroups same]
      refine hleft.right parent hparent _ _ _ _ _ binds (below_operator (by omega)) ?_ ?_
      · intro henclosed opens
        rw [← isEnclosed_regrouped left regroups same] at henclosed
        exact below_operator (closes henclosed opens)
      · refine hright.right op binary _ _ _ _ _ (same ▸ binds) (same ▸ below) ?_ goes
        exact fun henclosed opens => closes' notEnclosed (by simp [endsOpen, henclosed, opens])
    · refine alone.right h fun regroups child hchild hsame => same ⟨regroups, ?_⟩
      rw [operator] at hchild
      cases hchild
      exact hsame

/-- Every readable condition is read back. -/
theorem readsBack (h : n.Throughout (Readable p)) : n.ReadsBack p := by
  induction h with
  | identifier h => exact .of_operand (.identifier h) rfl fun _ _ => .name
  | @number _ value h =>
    refine .of_operand (.number h) rfl fun rest followed => ?_
    rw [plain]
    split
    · next zero => exact .number rfl (by decide) (by rw [zero]; decide +kernel)
    · next zero => exact .number (h.finite _ _ rfl) zero rfl
  | string h => exact .of_operand (.string h) rfl fun _ _ => .quoted
  | boolean h => exact .of_operand (.boolean h) rfl fun _ _ => .truth
  | length h => exact .of_operand (.length h) rfl fun _ _ => .length
  | @substring _ _ first last h hfirst hlast ihfirst ihlast =>
    refine .of_operand (.substring h hfirst hlast) rfl fun rest followed => ?_
    -- the last bound ends where the whole does, so that what follows the one follows the other
    have below : Below p rest := followed.2 rfl
    have binds : last.Binds p := h.bounded
    have hto : first.Followed p (.toWord :: (last.lexemes ++ rest)) :=
      ⟨fun _ _ => below_toWord _ _, fun _ => below_toWord _ _⟩
    have hrest : last.Followed p rest :=
      ⟨fun child hchild => below.mono (Nat.le_succ_of_le (binds child hchild)), fun _ => below⟩
    have readsFirst := ihfirst.alone 0 _ _ _ (fun _ _ => Nat.zero_le _) hto (.stop (below_toWord _ _))
    have readsLast := ihlast.alone p _ _ _ binds hrest (.stop below)
    simp only [lexemes, plain, List.cons_append, List.append_assoc]
    exact .substring readsFirst readsLast
  | notRight h hoperand ih =>
    refine .of_operand (.notRight h hoperand) rfl fun rest followed => ?_
    rw [lexemes_not_right, plain_not_right]
    exact ih.bang rest fun henclosed opens => followed.2 (by simp [endsOpen, henclosed, opens])
  | notLeft h hoperand ih =>
    refine .of_operand (.notLeft h hoperand) rfl fun rest followed => ?_
    rw [lexemes_not_left, plain_not_left]
    exact ih.bang rest fun henclosed opens => followed.2 (by simp [endsOpen, henclosed, opens])
  | binary binary h hleft hright ihleft ihright =>
    exact .binary (.binary binary h hleft hright) binary ihleft ihright (h.bounded binary)

end Node

end Playback
