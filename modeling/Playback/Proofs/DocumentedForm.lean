import Playback.Proofs.Misplaced
import Playback.Proofs.Recognition

/-!
# The documented form

`Node.Writes` says by rules how a node may be written as a value. What the form leaves open is in
the rules: an object may have further fields, for a rule only says what is found under the names
that it needs; the line, an operand and the other statements of a branch may be absent or `null`
where there are none; an identifier has its name under one of two names; an operator has its
spellings; and a literal without a line may stand as a bare value. Each choice is made anew at each
node.

Main statement: every node without unsupported parts can be written, and a value that writes a node
reads as exactly this node (`Node.reads_documented`).
-/

namespace Playback

/-- The spellings of an operator in a document: its symbol and, for the logical ones, another. -/
def Operator.spellings : Operator → List String
  | .and => ["and", "&&"]
  | .or => ["or", "||"]
  | .not => ["not", "!"]
  | op => [op.symbol]

lemma Operator.named?_of_mem_spellings {op : Operator} {name : String} (mem : name ∈ op.spellings) :
    Operator.named? name = some op := by
  cases op with
  | and | or | not =>
    rcases List.mem_cons.1 mem with rfl | mem
    · rfl
    · cases List.mem_singleton.1 mem
      rfl
  | _ =>
    cases List.mem_singleton.1 mem
    rfl

lemma Operator.symbol_mem_spellings (op : Operator) : op.symbol ∈ op.spellings := by
  cases op <;> decide

namespace Node

/-! ## What the form says -/

/-- What may stand under `line` for a node with this line. -/
inductive WritesLine : Option Json → Option UInt32 → Prop where
  | absent : WritesLine none none
  | null : WritesLine (some .null) none
  | given {l : UInt32} : WritesLine (some (Json.ofInt l.toNat)) (some l)

/-- The object has the name of the tag as its type, and the line. -/
structure Heads (fields : List (String × Json)) (tag : Tag) (line : Option UInt32) : Prop where
  type : Json.get? "type" fields = some (.string tag.name)
  line : WritesLine (Json.get? "line" fields) line

/-- What may stand under `params` for a function with these parameters. -/
inductive WritesParams : Option Json → List String → Prop where
  | absent : WritesParams none []
  | given {params} : WritesParams (some (Json.ofTexts params)) params

mutual

/-- The value writes the node in the documented form. -/
inductive Writes : Json → Node → Prop where
  | declaration {fields line name v value} (heads : Heads fields .declaration line)
      (named : Json.get? "name" fields = some (.string name))
      (holds : Json.get? "value" fields = some v) (writes : Writes v value) :
      Writes (.object fields) (.declaration line name value)
  | print {fields line v value} (heads : Heads fields .print line)
      (holds : Json.get? "value" fields = some v) (writes : Writes v value) :
      Writes (.object fields) (.print line value)
  | branch {fields line v condition vs consequent alternate} (heads : Heads fields .branch line)
      (decides : Json.get? "condition" fields = some v) (writes : Writes v condition)
      (holds : Json.get? "consequent" fields = some (.array vs)) (all : WritesAll vs consequent)
      (otherwise : WritesAlternate (Json.get? "alternate" fields) alternate) :
      Writes (.object fields) (.branch line condition consequent alternate)
  | loopUntil {fields line v condition vs body} (heads : Heads fields .loopUntil line)
      (decides : Json.get? "condition" fields = some v) (writes : Writes v condition)
      (holds : Json.get? "body" fields = some (.array vs)) (all : WritesAll vs body) :
      Writes (.object fields) (.loopUntil line condition body)
  | loopFromTo {fields line counter range v first w last vs body}
      (heads : Heads fields .loopFromTo line)
      (counts : Json.get? "loopVariable" fields = some (.string counter))
      (ranges : Json.get? "range" fields = some (.object range))
      (start : Json.get? "start" range = some v) (starts : Writes v first)
      (stop : Json.get? "end" range = some w) (stops : Writes w last)
      (holds : Json.get? "body" fields = some (.array vs)) (all : WritesAll vs body) :
      Writes (.object fields) (.loopFromTo line counter first last body)
  | function {fields line name params vs body} (heads : Heads fields .function line)
      (named : Json.get? "name" fields = some (.string name))
      (takes : WritesParams (Json.get? "params" fields) params)
      (holds : Json.get? "body" fields = some (.array vs)) (all : WritesAll vs body) :
      Writes (.object fields) (.function line name params body)
  | ret {fields line v value} (heads : Heads fields .ret line)
      (holds : Json.get? "value" fields = some v) (writes : Writes v value) :
      Writes (.object fields) (.ret line value)
  | expression {fields line left op right name} (heads : Heads fields .expression line)
      (lefts : WritesOperand (Json.get? "left" fields) left)
      (applies : Json.get? "operator" fields = some (.string name)) (spelled : name ∈ op.spellings)
      (rights : WritesOperand (Json.get? "right" fields) right) :
      Writes (.object fields) (.expression line left op right)
  | identifierName {fields line name} (heads : Heads fields .identifier line)
      (named : Json.get? "name" fields = some (.string name))
      (alone : Json.get? "value" fields = none) : Writes (.object fields) (.identifier line name)
  | identifierValue {fields line name} (heads : Heads fields .identifier line)
      (named : Json.get? "value" fields = some (.string name))
      (alone : Json.get? "name" fields = none) : Writes (.object fields) (.identifier line name)
  | number {fields line n} (heads : Heads fields .number line)
      (holds : Json.get? "value" fields = some (.number n)) :
      Writes (.object fields) (.number line n.jsonFloat)
  | bareNumber {n} : Writes (.number n) (.number none n.jsonFloat)
  | string {fields line s} (heads : Heads fields .string line)
      (holds : Json.get? "value" fields = some (.string s)) :
      Writes (.object fields) (.string line s)
  | bareString {s} : Writes (.string s) (.string none s)
  | boolean {fields line b} (heads : Heads fields .boolean line)
      (holds : Json.get? "value" fields = some (.bool b)) :
      Writes (.object fields) (.boolean line b)
  | bareBoolean {b} : Writes (.bool b) (.boolean none b)
  | length {fields line source} (heads : Heads fields .length line)
      (reads : Json.get? "source" fields = some (.string source)) :
      Writes (.object fields) (.length line source)
  | substring {fields line source v first w last} (heads : Heads fields .substring line)
      (reads : Json.get? "string" fields = some (.string source))
      (start : Json.get? "start" fields = some v) (starts : Writes v first)
      (stop : Json.get? "end" fields = some w) (stops : Writes w last) :
      Writes (.object fields) (.substring line source first last)

/-- The values write the nodes, one each. -/
inductive WritesAll : List Json → List Node → Prop where
  | nil : WritesAll [] []
  | cons {v n vs ns} (head : Writes v n) (tail : WritesAll vs ns) : WritesAll (v :: vs) (n :: ns)

/-- What may stand for an operand, which need not be there. -/
inductive WritesOperand : Option Json → Option Node → Prop where
  | absent : WritesOperand none none
  | null : WritesOperand (some .null) none
  | given {v n} (writes : Writes v n) : WritesOperand (some v) (some n)

/-- What may stand for the other statements of a branch, which need not be there. -/
inductive WritesAlternate : Option Json → Option (List Node) → Prop where
  | absent : WritesAlternate none none
  | null : WritesAlternate (some .null) none
  | given {vs ns} (all : WritesAll vs ns) : WritesAlternate (some (.array vs)) (some ns)

end

/-! ## Reading it -/

section

variable {fields : List (String × Json)} {key : String}

lemma Heads.headed {tag : Tag} {line : Option UInt32} (heads : Heads fields tag line) :
    Headed fields tag line where
  line := by
    have h := heads.line
    unfold lineField?
    generalize Json.get? "line" fields = written at h
    cases h with
    | absent | null => rfl
    | given =>
      rename_i l
      exact congrArg (Option.map some) (lineNumber?_eq_some_iff.2 rfl)
  tag := by simp only [tagField?, heads.type, Tag.named?_name]

lemma textField?_eq {s : String} (holds : Json.get? key fields = some (.string s)) :
    textField? key fields = some s := by
  rw [textField?, holds]
  rfl

lemma numberField?_eq {n : Numeral} (holds : Json.get? key fields = some (.number n)) :
    numberField? key fields = some n.jsonFloat := by
  rw [numberField?, holds]

lemma boolField?_eq {b : Bool} (holds : Json.get? key fields = some (.bool b)) :
    boolField? key fields = some b := by
  rw [boolField?, holds]

lemma mapM_text? (ss : List String) : (ss.map JsonTree.string).mapM Json.text? = some ss := by
  induction ss with
  | nil => rfl
  | cons s ss ih => simp [ih, Json.text?]

lemma WritesParams.reads {params : List String}
    (takes : WritesParams (Json.get? key fields) params) : textsField? key fields = some params := by
  unfold textsField?
  generalize Json.get? key fields = written at takes
  cases takes with
  | absent => rfl
  | given => exact mapM_text? params

lemma operatorField?_eq {op : Operator} {name : String}
    (applies : Json.get? "operator" fields = some (.string name)) (spelled : name ∈ op.spellings) :
    operatorField? fields = some op := by
  simp only [operatorField?, applies, Operator.named?_of_mem_spellings spelled]

lemma identifierField?_eq {name : String}
    (named : Json.get? "name" fields = some (.string name) ∧ Json.get? "value" fields = none ∨
      Json.get? "value" fields = some (.string name) ∧ Json.get? "name" fields = none) :
    identifierField? fields = some name := by
  rcases named with ⟨named, alone⟩ | ⟨named, alone⟩ <;>
    simp only [identifierField?, named, alone, Json.text?]

lemma Writes.ne_null {v : Json} {n : Node} (writes : Writes v n) : v ≠ .null := by
  rintro rfl
  cases writes

lemma isGiven_of_none (missing : Json.get? key fields = none) : isGiven key fields = false := by
  rw [isGiven, missing]

lemma isGiven_of_null (null : Json.get? key fields = some .null) : isGiven key fields = false := by
  rw [isGiven, null]

lemma operand?_eq_none (missing : isGiven key fields = false) : operand? key fields = none := by
  rw [operand?, missing]
  rfl

end

mutual

/-- A value that writes a node in the documented form reads as this node. -/
theorem Writes.reads {v : Json} {n : Node} : Writes v n → ofJson v = n
  | .declaration heads named holds writes => by
    obtain rfl := writes.reads
    exact (Recognised.declaration heads.headed (textField?_eq named) holds).ofJson_eq
  | .print heads holds writes => by
    obtain rfl := writes.reads
    exact (Recognised.print heads.headed holds).ofJson_eq
  | .branch heads decides writes holds all otherwise => by
    obtain rfl := writes.reads
    obtain rfl := all.reads
    obtain ⟨missing, rfl⟩ | ⟨ws, given, rfl⟩ := otherwise.reads rfl
    · exact (Recognised.branch heads.headed decides holds missing).ofJson_eq
    · exact (Recognised.branchElse heads.headed decides holds given).ofJson_eq
  | .loopUntil heads decides writes holds all => by
    obtain rfl := writes.reads
    obtain rfl := all.reads
    exact (Recognised.loopUntil heads.headed decides holds).ofJson_eq
  | .loopFromTo heads counts ranges start starts stop stops holds all => by
    obtain rfl := starts.reads
    obtain rfl := stops.reads
    obtain rfl := all.reads
    have spans := Spans.object start stop
    exact (Recognised.loopFromTo heads.headed (textField?_eq counts) ranges spans holds).ofJson_eq
  | .function heads named takes holds all => by
    obtain rfl := all.reads
    exact (Recognised.function heads.headed (textField?_eq named) takes.reads holds).ofJson_eq
  | .ret heads holds writes => by
    obtain rfl := writes.reads
    exact (Recognised.ret heads.headed holds).ofJson_eq
  | .expression heads lefts applies spelled rights => by
    obtain rfl := lefts.reads rfl
    obtain rfl := rights.reads rfl
    exact (Recognised.expression heads.headed (operatorField?_eq applies spelled)).ofJson_eq
  | .identifierName heads named alone =>
    (Recognised.identifier heads.headed (identifierField?_eq (.inl ⟨named, alone⟩))).ofJson_eq
  | .identifierValue heads named alone =>
    (Recognised.identifier heads.headed (identifierField?_eq (.inr ⟨named, alone⟩))).ofJson_eq
  | .number heads holds => (Recognised.number heads.headed (numberField?_eq holds)).ofJson_eq
  | .string heads holds => (Recognised.string heads.headed (textField?_eq holds)).ofJson_eq
  | .boolean heads holds => (Recognised.boolean heads.headed (boolField?_eq holds)).ofJson_eq
  | .bareNumber | .bareString | .bareBoolean => rfl
  | .length heads reads => (Recognised.length heads.headed (textField?_eq reads)).ofJson_eq
  | .substring heads reads start starts stop stops => by
    obtain rfl := starts.reads
    obtain rfl := stops.reads
    exact (Recognised.substring heads.headed (textField?_eq reads) start stop).ofJson_eq

lemma WritesAll.reads {vs : List Json} {ns : List Node} : WritesAll vs ns → vs.map ofJson = ns
  | .nil => rfl
  | .cons head tail => by rw [List.map_cons, head.reads, tail.reads]

lemma WritesOperand.reads {fields : List (String × Json)} {key : String} {written : Option Json}
    {n : Option Node} (holds : Json.get? key fields = written) :
    WritesOperand written n → operand? key fields = n
  | .absent => operand?_eq_none (isGiven_of_none holds)
  | .null => operand?_eq_none (isGiven_of_null holds)
  | .given writes => by rw [operand?_of_get? holds writes.ne_null, writes.reads]

lemma WritesAlternate.reads {fields : List (String × Json)} {key : String} {written : Option Json}
    {ns : Option (List Node)} (holds : Json.get? key fields = written) :
    WritesAlternate written ns → isGiven key fields = false ∧ ns = none ∨
      ∃ vs, Json.get? key fields = some (.array vs) ∧ ns = some (vs.map ofJson)
  | .absent => .inl ⟨isGiven_of_none holds, rfl⟩
  | .null => .inl ⟨isGiven_of_null holds, rfl⟩
  | .given all => .inr ⟨_, holds, congrArg some all.reads.symm⟩

end

/-! ## Writing it -/

/-- The node can be written as far as it goes itself: it is supported, and a number has a numeral. -/
def Expressible : Node → Prop
  | unsupported .. => False
  | number _ x => ∃ n : Numeral, n.jsonFloat = x
  | _ => True

/-- An object with the tag, the line and further fields. -/
def tagged (tag : Tag) (line : Option UInt32) (rest : List (String × Json)) :
    List (String × Json) :=
  ("type", .string tag.name) :: ("line", (line.map fun l => Json.ofInt l.toNat).getD .null) :: rest

lemma heads_tagged (tag : Tag) (line : Option UInt32) (rest : List (String × Json)) :
    Heads (tagged tag line rest) tag line where
  type := by simp [tagged, Json.get?]
  line := by
    cases line with
    | none =>
      simp [tagged, Json.get?]
      exact .null
    | some l =>
      simp [tagged, Json.get?]
      exact .given

mutual

/-- Every node that holds no unsupported one, and only numbers that have numerals, can be written.
-/
theorem exists_writes : ∀ n : Node, (∀ m ∈ n.nodes, m.Expressible) → ∃ v, Writes v n
  | declaration line name value, h => by
    obtain ⟨v, writes⟩ := exists_writes value fun m hm => h m (Part.declared.nodes_subset hm)
    have heads := heads_tagged .declaration line [("name", .string name), ("value", v)]
    exact ⟨_, .declaration heads rfl rfl writes⟩
  | print line value, h => by
    obtain ⟨v, writes⟩ := exists_writes value fun m hm => h m (Part.printed.nodes_subset hm)
    exact ⟨_, .print (heads_tagged .print line [("value", v)]) rfl writes⟩
  | branch line condition consequent none, h => by
    obtain ⟨v, writes⟩ := exists_writes condition fun m hm => h m (Part.condition.nodes_subset hm)
    obtain ⟨vs, all⟩ := exists_writesAll consequent fun n mem m hm =>
      h m ((Part.consequent mem).nodes_subset hm)
    have heads := heads_tagged .branch line [("condition", v), ("consequent", .array vs)]
    exact ⟨_, .branch heads rfl writes rfl all .absent⟩
  | branch line condition consequent (some alternate), h => by
    obtain ⟨v, writes⟩ := exists_writes condition fun m hm => h m (Part.condition.nodes_subset hm)
    obtain ⟨vs, all⟩ := exists_writesAll consequent fun n mem m hm =>
      h m ((Part.consequent mem).nodes_subset hm)
    obtain ⟨ws, all'⟩ := exists_writesAll alternate fun n mem m hm =>
      h m ((Part.alternate mem).nodes_subset hm)
    have heads := heads_tagged .branch line
      [("condition", v), ("consequent", .array vs), ("alternate", .array ws)]
    exact ⟨_, .branch heads rfl writes rfl all (.given all')⟩
  | loopUntil line condition body, h => by
    obtain ⟨v, writes⟩ := exists_writes condition fun m hm => h m (Part.goal.nodes_subset hm)
    obtain ⟨vs, all⟩ := exists_writesAll body fun n mem m hm =>
      h m ((Part.repeated mem).nodes_subset hm)
    have heads := heads_tagged .loopUntil line [("condition", v), ("body", .array vs)]
    exact ⟨_, .loopUntil heads rfl writes rfl all⟩
  | loopFromTo line counter first last body, h => by
    obtain ⟨v, starts⟩ := exists_writes first fun m hm => h m (Part.start.nodes_subset hm)
    obtain ⟨w, stops⟩ := exists_writes last fun m hm => h m (Part.stop.nodes_subset hm)
    obtain ⟨vs, all⟩ := exists_writesAll body fun n mem m hm =>
      h m ((Part.counted mem).nodes_subset hm)
    have heads := heads_tagged .loopFromTo line
      [("loopVariable", .string counter), ("range", .object [("start", v), ("end", w)]),
        ("body", .array vs)]
    exact ⟨_, .loopFromTo heads rfl rfl rfl starts rfl stops rfl all⟩
  | function line name params body, h => by
    obtain ⟨vs, all⟩ := exists_writesAll body fun n mem m hm =>
      h m ((Part.body mem).nodes_subset hm)
    have heads := heads_tagged .function line
      [("name", .string name), ("params", Json.ofTexts params), ("body", .array vs)]
    exact ⟨_, .function heads rfl .given rfl all⟩
  | ret line value, h => by
    obtain ⟨v, writes⟩ := exists_writes value fun m hm => by
      have mem : m ∈ nodesOnto [ret line value] value := mem_nodesOnto.2 (.inl hm)
      exact h m mem
    exact ⟨_, .ret (heads_tagged .ret line [("value", v)]) rfl writes⟩
  | expression line left op right, h => by
    obtain ⟨v, lefts⟩ := exists_writesOperand left fun n hn m hm => by
      subst hn
      exact h m (Part.left.nodes_subset hm)
    obtain ⟨w, rights⟩ := exists_writesOperand right fun n hn m hm => by
      subst hn
      exact h m (Part.right.nodes_subset hm)
    have heads := heads_tagged .expression line
      [("left", v), ("operator", .string op.symbol), ("right", w)]
    exact ⟨_, .expression heads lefts rfl op.symbol_mem_spellings rights⟩
  | identifier line name, _ =>
    ⟨_, .identifierValue (heads_tagged .identifier line [("value", .string name)]) rfl rfl⟩
  | number line x, h => by
    obtain ⟨n, rfl⟩ := h _ (self_mem_nodes _)
    exact ⟨_, .number (heads_tagged .number line [("value", .number n)]) rfl⟩
  | string line s, _ => ⟨_, .string (heads_tagged .string line [("value", .string s)]) rfl⟩
  | boolean line b, _ => ⟨_, .boolean (heads_tagged .boolean line [("value", .bool b)]) rfl⟩
  | length line source, _ =>
    ⟨_, .length (heads_tagged .length line [("source", .string source)]) rfl⟩
  | substring line source first last, h => by
    obtain ⟨v, starts⟩ := exists_writes first fun m hm => h m (Part.first.nodes_subset hm)
    obtain ⟨w, stops⟩ := exists_writes last fun m hm => h m (Part.last.nodes_subset hm)
    have heads := heads_tagged .substring line
      [("string", .string source), ("start", v), ("end", w)]
    exact ⟨_, .substring heads rfl rfl starts rfl stops⟩
  | unsupported line kind, h => (h _ (self_mem_nodes _)).elim

lemma exists_writesAll : ∀ ns : List Node, (∀ n ∈ ns, ∀ m ∈ n.nodes, m.Expressible) →
    ∃ vs, WritesAll vs ns
  | [], _ => ⟨[], .nil⟩
  | n :: ns, h => by
    obtain ⟨v, writes⟩ := exists_writes n (h n (.head _))
    obtain ⟨vs, all⟩ := exists_writesAll ns fun m hm => h m (.tail _ hm)
    exact ⟨v :: vs, .cons writes all⟩

lemma exists_writesOperand : ∀ n : Option Node, (∀ n', n = some n' → ∀ m ∈ n'.nodes, m.Expressible) →
    ∃ v, WritesOperand (some v) n
  | none, _ => ⟨.null, .null⟩
  | some n, h => by
    obtain ⟨v, writes⟩ := exists_writes n (h n rfl)
    exact ⟨v, .given writes⟩

end

/-- The documented form is accepted as a whole: a node without unsupported parts can be written in
it, and whatever writes a node in it reads as exactly this node. -/
theorem reads_documented (n : Node) :
    ((∀ m ∈ n.nodes, m.Expressible) → ∃ v, Writes v n) ∧ ∀ v, Writes v n → ofJson v = n :=
  ⟨exists_writes n, fun _ writes => writes.reads⟩

/-- A branch with a further field, no other statements, another spelling of its operator, a bare
literal on the one side and a name under `name` on the other; inside it a function without
parameters. -/
def branchOfFields : List (String × Json) :=
  [("note", .string "again"), ("type", .string "IfStatement"), ("line", Json.ofInt 7),
    ("condition", .object [("type", .string "Expression"), ("left", .bool true),
      ("operator", .string "&&"),
      ("right", .object [("type", .string "Identifier"), ("name", .string "ready")])]),
    ("consequent", .array [.object [("type", .string "FunctionDeclaration"), ("name", .string "run"),
      ("body", .array [.object [("type", .string "PrintStatement"), ("line", .null),
        ("value", Json.ofInt 3)]])]]),
    ("alternate", .null)]

/-- The node that these fields write. -/
def branchWritten : Node :=
  .branch (some 7)
    (.expression none (some (.boolean none true)) .and (some (.identifier none "ready")))
    [.function none "run" [] [.print none (.number none (Numeral.ofInt 3).jsonFloat)]] none

theorem reads_documented_branchOfFields :
    Writes (.object branchOfFields) branchWritten ∧
      ofJson (.object branchOfFields) = branchWritten := by
  have ready : Writes (.object [("type", .string "Identifier"), ("name", .string "ready")])
      (.identifier none "ready") := .identifierName ⟨rfl, .absent⟩ rfl rfl
  have prints : Writes (.object [("type", .string "PrintStatement"), ("line", .null),
      ("value", Json.ofInt 3)]) (.print none (.number none (Numeral.ofInt 3).jsonFloat)) :=
    .print ⟨rfl, .null⟩ rfl .bareNumber
  have writes : Writes (.object branchOfFields) branchWritten :=
    .branch ⟨rfl, @WritesLine.given 7⟩ rfl
      (.expression ⟨rfl, .absent⟩ (.given .bareBoolean) rfl (.tail _ (.head _)) (.given ready)) rfl
      (.cons (.function ⟨rfl, .absent⟩ rfl .absent rfl (.cons prints .nil)) .nil) .null
  exact ⟨writes, (reads_documented _).2 _ writes⟩

end Node

end Playback
