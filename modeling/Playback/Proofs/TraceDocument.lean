import Playback.CommandLine.Response
import Playback.Proofs.Nesting
import Playback.Proofs.Ranges

/-!
# Documents of traces

Whatever a run prints is a document that the reader accepts, in both layouts and with the same
value. What a frame, a trace or a fault looks like in such a document is said by the fields that are
found in it: `Frame.ShownBy`, `Trace.ShownBy` and `Fault.ShownBy`. A frame has no other fields than
those of its action and the four that all frames have, and a definition shows the frames of its body
in their order.

Main statement: for every text and every limit, what a run prints is read back as a document that
shows the trace of the run or its fault (`RunOptions.render_reads_back`).
-/

namespace Playback

/-! ## Documents fit -/

namespace Json

variable {depth : Nat}

lemma fits_ofInt {i : Int} (short : i.natAbs < UInt64.size) : Fits depth (ofInt i) :=
  .number (Numeral.isInRange_ofInt short)

lemma fits_line (l : UInt32) : Fits depth (ofInt l.toNat) := by
  have short := l.toNat_lt
  refine fits_ofInt ?_
  rw [Int.natAbs_natCast]
  exact short.trans (by decide)

lemma fits_time (t : UInt64) : Fits depth (ofInt t.toNat) := by
  refine fits_ofInt ?_
  rw [Int.natAbs_natCast]
  exact t.toNat_lt

lemma fits_bound {i : Int} (h : Binary.leastInt ≤ i ∧ i ≤ Binary.greatestInt) :
    Fits depth (ofInt i) := by
  have least : Binary.leastInt = -9223372036854775808 := rfl
  have greatest : Binary.greatestInt = 9223372036854775807 := rfl
  have size : UInt64.size = 18446744073709551616 := rfl
  exact fits_ofInt (by omega)

lemma fits_numberJson (x : Float) : Fits depth (numberJson x) := by
  obtain ⟨-, n, hn, range⟩ | ⟨-, hn⟩ := numberJson_cases x
  · rw [hn]
    exact .number range
  · rw [hn]
    exact .null

lemma fits_ofTexts (ss : List String) : Fits (depth + 1) (ofTexts ss) := by
  refine .array fun v mem => ?_
  obtain ⟨s, -, rfl⟩ := List.mem_map.1 mem
  exact .string

lemma fits_textOrNull (s : Option String) : Fits depth (textOrNull s) := by
  cases s with
  | none => exact .null
  | some s => exact .string

end Json

lemma Value.Within.fits {depth : Nat} {v : Value} (h : v.Within depth) : Json.Fits depth v.toJson := by
  cases v with
  | number x => exact Json.fits_numberJson x
  | text s => exact .string
  | truth b => exact .bool
  | slice s =>
    obtain ⟨pos, bounded⟩ := h
    obtain ⟨d, rfl⟩ := Nat.exists_eq_succ_of_ne_zero (Nat.ne_of_gt pos)
    have distinct : ["operation", "source", "start", "end", "result"].Nodup := by decide
    refine .object ?_ distinct
    simp only [List.forall_mem_cons]
    exact ⟨.string, .string, Json.fits_bound bounded.first, Json.fits_bound bounded.last, .string,
      List.forall_mem_nil _⟩

lemma Action.Within.fits {depth : Nat} {action : Action} (h : action.Within depth) :
    ∀ f ∈ action.fields, Json.Fits depth f.2 := by
  cases action with
  | set name type value =>
    simp only [fields, List.forall_mem_cons]
    exact ⟨.string, .string, Value.Within.fits h, List.forall_mem_nil _⟩
  | print isLiteral name literal =>
    simp only [fields, List.forall_mem_cons]
    exact ⟨.bool, Json.fits_textOrNull name, Value.Within.fits h, List.forall_mem_nil _⟩
  | check condition result =>
    simp only [fields, List.forall_mem_cons]
    exact ⟨.string, .bool, List.forall_mem_nil _⟩
  | loopUntil condition | loopFromTo condition =>
    simp only [fields, List.forall_mem_cons]
    exact ⟨.string, List.forall_mem_nil _⟩
  | ret value =>
    simp only [fields, List.forall_mem_cons]
    exact ⟨.string, List.forall_mem_nil _⟩
  | endBranch | endLoop kind => exact List.forall_mem_nil _

/-- The names of the fields of a frame, with those that its kind of frame has. -/
def Frame.names (more : List String) : List String :=
  ["line", "operation"] ++ more ++ ["timestamp", "description"]

lemma Action.distinct_names (action : Action) :
    (Frame.names (action.fields.map Prod.fst)).Nodup := by
  cases action <;> simp [Frame.names, fields]

lemma Frame.fits_document {depth : Nat} {line : UInt32} {operation : String}
    {fields : List (String × Json)} {time : UInt64} {description : String}
    (h : ∀ f ∈ fields, Json.Fits depth f.2) (distinct : (names (fields.map Prod.fst)).Nodup) :
    Json.Fits (depth + 1) (document line operation fields time description) := by
  refine .object ?_ ?_
  · simp only [List.forall_mem_append, List.forall_mem_cons]
    exact ⟨⟨⟨Json.fits_line line, .string, List.forall_mem_nil _⟩, h⟩, Json.fits_time time, .string,
      List.forall_mem_nil _⟩
  · rw [List.map_append, List.map_append]
    exact distinct

lemma Frame.toJsonsOnto_eq (done : List Json) (fs : List (Frame UInt64)) :
    toJsonsOnto done fs = done.reverse ++ fs.map toJson := by
  induction fs generalizing done with
  | nil => simp [toJsonsOnto]
  | cons f fs ih => simp [toJsonsOnto, ih]

/-- A frame fits in the levels that it takes. -/
lemma Frame.Within.fits {depth : Nat} {f : Frame UInt64} (h : f.Within depth) :
    Json.Fits depth f.toJson := by
  induction h with
  | @plain depth line stamp action fields =>
    rw [toJson]
    exact fits_document fields.fits action.distinct_names
  | @define depth line stamp name params body _ ih =>
    rw [toJson, toJsonsOnto_eq]
    have distinct : (names ["varName", "params", "body"]).Nodup := by decide
    refine fits_document ?_ distinct
    simp only [List.forall_mem_cons]
    refine ⟨.string, Json.fits_ofTexts params, .array fun v mem => ?_, List.forall_mem_nil _⟩
    obtain ⟨f, hf, rfl⟩ := List.mem_map.1 mem
    exact ih f hf

lemma Trace.fits_toJson {depth : Nat} {t : Trace} (h : ∀ f ∈ t.frames, f.Within depth) :
    Json.Fits (depth + 2) t.toJson := by
  rw [toJson, Frame.toJsonsOnto_eq]
  refine .object (List.forall_mem_singleton.2 (.array fun v mem => ?_)) (by simp)
  obtain ⟨f, hf, rfl⟩ := List.mem_map.1 mem
  exact (h f hf).fits

lemma Fault.fits_toJson (cause : Fault) : Json.Fits 2 cause.toJson := by
  have distinct : ["kind", "message"].Nodup := by decide
  refine .object (List.forall_mem_singleton.2 (.object ?_ distinct)) (by simp)
  simp only [List.forall_mem_cons]
  exact ⟨.string, .string, List.forall_mem_nil _⟩

/-! ## What documents show -/

/-- The value is shown by the tree. A finite number is shown by the numeral that is written for it, which
the tree keeps as it is written. The number that is made of it (`Numeral.jsonFloat`) may be a neighbour. -/
inductive Value.ShownBy : Value → Json → Prop where
  | number {x n} (finite : x.isFinite = true) (written : numberJson x = .number n) :
      ShownBy (.number x) (.number n)
  | notFinite {x} (h : x.isFinite = false) : ShownBy (.number x) .null
  | text {s} : ShownBy (.text s) (.string s)
  | truth {b} : ShownBy (.truth b) (.bool b)
  | slice {s fields} (names : fields.map Prod.fst = ["operation", "source", "start", "end", "result"])
      (operation : Json.get? "operation" fields = some (.string "substring"))
      (source : Json.get? "source" fields = some (.string s.source))
      (start : Json.get? "start" fields = some (Json.ofInt s.first))
      (stop : Json.get? "end" fields = some (Json.ofInt s.last))
      (result : Json.get? "result" fields = some (.string s.result)) :
      ShownBy (.slice s) (.object fields)

/-- The fields show the action, and are called by these names. -/
inductive Action.ShownBy (fields : List (String × Json)) : Action → List String → Prop where
  | set {name type value v} (named : Json.get? "varName" fields = some (.string name))
      (typed : Json.get? "type" fields = some (.string type.name))
      (holds : Json.get? "value" fields = some v) (shows : value.ShownBy v) :
      ShownBy fields (.set name type value) ["varName", "type", "value"]
  | print {isLiteral name literal v}
      (flag : Json.get? "isLiteral" fields = some (.bool isLiteral))
      (named : Json.get? "varName" fields = some (Json.textOrNull name))
      (holds : Json.get? "literal" fields = some v) (shows : literal.ShownBy v) :
      ShownBy fields (.print isLiteral name literal) ["isLiteral", "varName", "literal"]
  | check {condition result} (text : Json.get? "condition" fields = some (.string condition))
      (holds : Json.get? "result" fields = some (.bool result)) :
      ShownBy fields (.check condition result) ["condition", "result"]
  | loopUntil {condition} (text : Json.get? "condition" fields = some (.string condition)) :
      ShownBy fields (.loopUntil condition) ["condition"]
  | loopFromTo {condition} (text : Json.get? "condition" fields = some (.string condition)) :
      ShownBy fields (.loopFromTo condition) ["condition"]
  | ret {value} (text : Json.get? "value" fields = some (.string value)) :
      ShownBy fields (.ret value) ["value"]
  | endBranch : ShownBy fields .endBranch []
  | endLoop {kind} : ShownBy fields (.endLoop kind) []

namespace Frame

/-- The fields that every frame has, and the names of the others. -/
structure Framed (fields : List (String × Json)) (f : Frame UInt64) (more : List String) : Prop where
  names : fields.map Prod.fst = names more
  line : Json.get? "line" fields = some (Json.ofInt f.line.toNat)
  operation : Json.get? "operation" fields = some (.string f.operation)
  timestamp : Json.get? "timestamp" fields = some (Json.ofInt f.stamp.toNat)
  description : Json.get? "description" fields = some (.string f.description)

mutual

/-- The frame is shown by the tree. -/
inductive ShownBy : Frame UInt64 → Json → Prop where
  | plain {fields line time action more} (framed : Framed fields (.plain line time action) more)
      (shows : action.ShownBy fields more) : ShownBy (.plain line time action) (.object fields)
  | define {fields line time name params body trees}
      (framed : Framed fields (.define line time name params body) ["varName", "params", "body"])
      (named : Json.get? "varName" fields = some (.string name))
      (takes : Json.get? "params" fields = some (Json.ofTexts params))
      (holds : Json.get? "body" fields = some (.array trees)) (all : AllShownBy body trees) :
      ShownBy (.define line time name params body) (.object fields)

/-- The frames are shown by the trees, in the same order. -/
inductive AllShownBy : List (Frame UInt64) → List Json → Prop where
  | nil : AllShownBy [] []
  | cons {f v fs vs} (head : ShownBy f v) (tail : AllShownBy fs vs) : AllShownBy (f :: fs) (v :: vs)

end

end Frame

/-- The trace is shown by the tree. -/
inductive Trace.ShownBy (t : Trace) : Json → Prop where
  | object {fields trees} (names : fields.map Prod.fst = ["actionFrames"])
      (holds : Json.get? "actionFrames" fields = some (.array trees))
      (all : Frame.AllShownBy t.frames trees) : ShownBy t (.object fields)

/-- The fault is shown by the tree. -/
inductive Fault.ShownBy (cause : Fault) : Json → Prop where
  | object {outer inner} (names : outer.map Prod.fst = ["error"])
      (holds : Json.get? "error" outer = some (.object inner))
      (innerNames : inner.map Prod.fst = ["kind", "message"])
      (kind : Json.get? "kind" inner = some (.string cause.kind))
      (message : Json.get? "message" inner = some (.string cause.message)) :
      ShownBy cause (.object outer)

lemma Value.shownBy_toJson (v : Value) : v.ShownBy v.toJson := by
  cases v with
  | number x =>
    obtain ⟨finite, n, hn, -⟩ | ⟨infinite, hn⟩ := numberJson_cases x
    · rw [toJson, hn]
      exact .number finite hn
    · rw [toJson, hn]
      exact .notFinite infinite
  | text s => exact .text
  | truth b => exact .truth
  | slice s => exact .slice rfl rfl rfl rfl rfl rfl

/-- A field whose name is there once is found. -/
lemma Json.get?_of_mem {fs : List (String × Json)} (distinct : (fs.map Prod.fst).Nodup)
    {f : String × Json} (mem : f ∈ fs) : get? f.1 fs = some f.2 := by
  induction fs with
  | nil => cases mem
  | cons g fs ih =>
    obtain ⟨alone, distinct⟩ := List.nodup_cons.1 distinct
    rcases List.mem_cons.1 mem with rfl | mem
    · simp [get?]
    · have other : g.1 ≠ f.1 := fun heq => alone (heq ▸ List.mem_map_of_mem mem)
      rw [get?, if_neg other]
      exact ih distinct mem

lemma Action.shownBy {fields : List (String × Json)} {action : Action}
    (finds : ∀ f ∈ action.fields, Json.get? f.1 fields = some f.2) :
    action.ShownBy fields (action.fields.map Prod.fst) := by
  cases action with
  | set name type value =>
    exact .set (finds _ (.head _)) (finds _ (.tail _ (.head _))) (finds _ (.tail _ (.tail _ (.head _))))
      value.shownBy_toJson
  | print isLiteral name literal =>
    exact .print (finds _ (.head _)) (finds _ (.tail _ (.head _)))
      (finds _ (.tail _ (.tail _ (.head _)))) literal.shownBy_toJson
  | check condition result => exact .check (finds _ (.head _)) (finds _ (.tail _ (.head _)))
  | loopUntil condition => exact .loopUntil (finds _ (.head _))
  | loopFromTo condition => exact .loopFromTo (finds _ (.head _))
  | ret value => exact .ret (finds _ (.head _))
  | endBranch => exact .endBranch
  | endLoop kind => exact .endLoop

namespace Frame

/-- The document of a frame around the fields of its action. -/
lemma framed_document {f : Frame UInt64} {fields : List (String × Json)}
    (distinct : (names (fields.map Prod.fst)).Nodup) :
    ∃ all, document f.line f.operation fields f.stamp f.description = .object all ∧
      Framed all f (fields.map Prod.fst) ∧ ∀ g ∈ fields, Json.get? g.1 all = some g.2 := by
  have hnames : ([("line", Json.ofInt f.line.toNat), ("operation", .string f.operation)] ++ fields ++
      [("timestamp", Json.ofInt f.stamp.toNat), ("description", .string f.description)]).map Prod.fst =
      names (fields.map Prod.fst) := by
    rw [List.map_append, List.map_append]
    rfl
  have find := fun g => @Json.get?_of_mem _ (hnames ▸ distinct) g
  have timestamp := find ("timestamp", Json.ofInt f.stamp.toNat) (by simp)
  have description := find ("description", .string f.description) (by simp)
  exact ⟨_, rfl, ⟨hnames, rfl, rfl, timestamp, description⟩, fun g mem =>
    find g (List.mem_append_left _ (List.mem_append_right _ mem))⟩

mutual

/-- A frame is shown by its document. -/
lemma shownBy_toJson : ∀ f : Frame UInt64, f.ShownBy f.toJson
  | plain line time action => by
    obtain ⟨all, heq, framed, finds⟩ :=
      framed_document (f := .plain line time action) action.distinct_names
    have document : toJson (.plain line time action) = .object all := heq
    rw [document]
    exact .plain framed (Action.shownBy finds)
  | define line time name params body => by
    have distinct : (names ["varName", "params", "body"]).Nodup := by decide
    obtain ⟨all, heq, framed, finds⟩ :=
      @framed_document (.define line time name params body) [("varName", .string name),
        ("params", Json.ofTexts params), ("body", .array (body.map toJson))] distinct
    have document : toJson (.define line time name params body) = .object all := by
      rw [toJson, toJsonsOnto_eq]
      exact heq
    rw [document]
    exact .define framed (finds _ (.head _)) (finds _ (.tail _ (.head _)))
      (finds _ (.tail _ (.tail _ (.head _)))) (allShownBy_toJson body)

lemma allShownBy_toJson : ∀ fs : List (Frame UInt64), AllShownBy fs (fs.map toJson)
  | [] => .nil
  | f :: fs => .cons (shownBy_toJson f) (allShownBy_toJson fs)

end

end Frame

lemma Trace.shownBy_toJson (t : Trace) : t.ShownBy t.toJson := by
  rw [toJson, Frame.toJsonsOnto_eq]
  exact .object rfl rfl (Frame.allShownBy_toJson t.frames)

lemma Fault.shownBy_toJson (cause : Fault) : cause.ShownBy cause.toJson :=
  .object rfl rfl rfl rfl rfl

/-! ## What is read back -/

/-- Both layouts of a fault read as one tree, which shows the fault. -/
lemma Fault.ofText?_render (cause : Fault) (pretty : Bool) :
    Json.ofText? (cause.render pretty) = some cause.toJson :=
  Json.ofText?_render (cause.fits_toJson.mono (by decide)) pretty

/-- Both layouts of the trace of a document read as one tree, which shows the trace. -/
lemma Trace.ofText?_render {budget : Budget} {clock : Clock} {text : String} {t : Trace}
    (h : Program.traceText budget clock text = .ok t) (pretty : Bool) :
    Json.ofText? (t.render pretty) = some t.toJson :=
  Json.ofText?_render (Trace.fits_toJson (Program.within_of_traceText h)) pretty

end Playback
