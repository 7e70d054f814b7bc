import Playback.Proofs.Literals
import Playback.Proofs.Ranges
import Playback.Proofs.StoreLog

/-!
# Overflow

In a document a number must be finite, and what is not finite is `null`. Texts count as finite numbers
only, nothing is divided by zero, and counting on never leaves the finite numbers; but the result of an
operation on finite numbers may be too large to be finite, and it is kept as it is. `Stage.Overflows`
says that this happens in what a run is about to do.

Main statement: every number that the trace of a text sets or prints is finite and stands in the
document as a number, unless the run comes to a stage that overflows (`Program.traceText_finite`).
-/

namespace Playback

/-- If the value is a number, it is finite. -/
def Value.IsFinite (v : Value) : Prop :=
  ∀ x, v = .number x → x.isFinite = true

/-- All numbers in the store are finite. -/
def Store.IsFinite (store : Store) : Prop :=
  ∀ name v, store.get? name = some v → v.IsFinite

/-- The value that an action sets or prints. -/
def Action.value? : Action → Option Value
  | set _ _ value => some value
  | print _ _ literal => some literal
  | _ => none

/-- If the action shows a number, it is finite. -/
def Action.IsFinite (action : Action) : Prop :=
  ∀ v, action.value? = some v → v.IsFinite

/-- The evaluation of an expression comes to an operation that makes of finite numbers one that is not. -/
inductive Node.Overflows (store : Store) : Node → Prop where
  | result {line l op r a b x y z} (left : l.evaluate store = .ok a) (right : r.evaluate store = .ok b)
      (first : a.toNumber? = some x) (second : b.toNumber? = some y)
      (finite : x.isFinite = true ∧ y.isFinite = true)
      (makes : Value.binary op a.primitive b.primitive = .ok (.number z)) (infinite : z.isFinite = false) :
      Overflows store (.expression line (some l) op (some r))
  | left {line l op r} (h : Overflows store l) :
      Overflows store (.expression line (some l) op (some r))
  | right {line l op r a} (left : l.evaluate store = .ok a) (h : Overflows store r) :
      Overflows store (.expression line (some l) op (some r))
  /-- A text of so many characters that their number is not finite. -/
  | length {line source v} (reads : store.read source = .ok v)
      (infinite : (Float.ofNat v.display.length).isFinite = false) : Overflows store (.length line source)

/-- What a run is about to do makes of finite numbers one that is not. -/
inductive Stage.Overflows (store : Store) : Stage → Prop where
  | declaration {line name value} (h : value.Overflows store) :
      Overflows store (.statement (.declaration line name value))
  | print {line value} (h : value.Overflows store) : Overflows store (.statement (.print line value))
  | loopFromTo {line counter first last body} (h : first.Overflows store) :
      Overflows store (.statement (.loopFromTo line counter first last body))

/-! ## Values -/

namespace Value

lemma IsFinite.number {x : Float} (h : x.isFinite = true) : (Value.number x).IsFinite := by
  intro y same
  cases same
  exact h

lemma IsFinite.text {s : String} : (Value.text s).IsFinite := nofun

lemma IsFinite.primitive {v : Value} (finite : v.IsFinite) : v.primitive.IsFinite := by
  cases v with
  | slice s => exact nofun
  | _ => exact finite

/-- A text counts as a finite number, if as any. -/
lemma isFinite_of_numberOfText? {s : String} {x : Float} (h : numberOfText? s = some x) :
    x.isFinite = true := by
  unfold numberOfText? at h
  split at h
  · cases h
    rfl
  · exact (Option.filter_eq_some_iff.1 h).2

lemma IsFinite.toNumber? {v : Value} (finite : v.IsFinite) {x : Float} (h : v.toNumber? = some x) :
    x.isFinite = true := by
  cases v with
  | number y =>
    cases h
    exact finite _ rfl
  | truth b =>
    cases h
    cases b <;> rfl
  | text s | slice s => exact isFinite_of_numberOfText? h

lemma IsFinite.requireNumber {v : Value} (finite : v.IsFinite) {context : String} {x : Float}
    (h : v.requireNumber context = .ok x) : x.isFinite = true := by
  unfold Value.requireNumber at h
  cases counts : v.toNumber? with
  | none => rw [counts] at h; cases h
  | some y =>
    rw [counts] at h
    cases h
    exact finite.toNumber? counts

/-- What is cut out is no number. -/
lemma isFinite_of_cut {v w : Value} {source : String} {first last : Int}
    (h : v.cut source first last = .ok w) : w.IsFinite := by
  rw [cut] at h
  split at h
  · cases h
  · cases h
    intro x same
    cases same

lemma toNumber?_of_numbers {op : Operator} {a b : Value} {x y : Float}
    (h : numbers op a b = .ok (x, y)) : a.toNumber? = some x ∧ b.toNumber? = some y := by
  unfold numbers at h
  cases hx : a.toNumber? with
  | none => rw [hx] at h; cases h
  | some x' =>
    cases hy : b.toNumber? with
    | none => rw [hx, hy] at h; cases h
    | some y' =>
      rw [hx, hy] at h
      cases h
      exact ⟨rfl, rfl⟩

/-- What makes a number counts both operands as numbers. -/
lemma toNumber?_of_binary {op : Operator} {a b : Value} {z : Float}
    (h : binary op a b = .ok (.number z)) :
    ∃ x y, a.toNumber? = some x ∧ b.toNumber? = some y := by
  have counts {f : Float → Float → Float} (h : arithmetic op f a b = .ok (.number z)) :
      ∃ x y, a.toNumber? = some x ∧ b.toNumber? = some y := by
    obtain ⟨⟨x, y⟩, both, -⟩ := map_eq_ok_iff.1 h
    exact ⟨x, y, toNumber?_of_numbers both⟩
  cases op with
  | add =>
    rw [binary, add] at h
    split at h
    · cases h
    · exact counts h
  | sub | mul => exact counts h
  | div =>
    obtain ⟨⟨x, y⟩, both, -⟩ := bind_eq_ok_iff.1 h
    exact ⟨x, y, toNumber?_of_numbers both⟩
  | less | lessEq | greater | greaterEq =>
    obtain ⟨o, -, made⟩ := map_eq_ok_iff.1 h
    cases made
  | _ => cases h

end Value

namespace Action.IsFinite

variable {v : Value} (h : v.IsFinite)
include h

lemma set {name : String} {type : ValueType} : (Action.set name type v).IsFinite := by
  intro w same
  cases same
  exact h

lemma print {isLiteral : Bool} {name : Option String} : (Action.print isLiteral name v).IsFinite := by
  intro w same
  cases same
  exact h

end Action.IsFinite

/-! ## Expressions -/

namespace Node

variable {p : Program} {store : Store}

/-- An operation on values that are finite yields such a value, or overflows. -/
lemma isFinite_of_operands {line : Option UInt32} {l r : Node} {op : Operator} {a b v : Value}
    (left : l.evaluate store = .ok a) (right : r.evaluate store = .ok b)
    (first : a.IsFinite) (second : b.IsFinite)
    (makes : Value.binary op a.primitive b.primitive = .ok v) :
    v.IsFinite ∨ Overflows store (.expression line (some l) op (some r)) := by
  refine or_iff_not_imp_right.2 fun spared z number => ?_
  subst number
  obtain ⟨x, y, hx, hy⟩ := Value.toNumber?_of_binary makes
  rw [Value.toNumber?_primitive] at hx hy
  rw [← Bool.not_eq_false]
  exact fun infinite =>
    spared (.result left right hx hy ⟨first.toNumber? hx, second.toNumber? hy⟩ makes infinite)

/-- In a finite store an expression with finite numbers has a finite value, or its evaluation
overflows. -/
lemma isFinite_of_evaluate (literals : p.IsFinite) (finite : store.IsFinite) :
    ∀ {n : Node}, p.Holds .expression n → ∀ {v}, n.evaluate store = .ok v →
      v.IsFinite ∨ n.Overflows store
  | .number line x, holds, v, h => by
    cases h
    exact .inl (.number (literals line x holds.mem_nodes))
  | .identifier line name, _, v, h => by
    obtain ⟨w, reads, rfl⟩ := map_eq_ok_iff.1 h
    exact .inl (finite name w (Store.get?_of_read reads)).primitive
  | .length line source, _, v, h => by
    obtain ⟨w, reads, rfl⟩ := map_eq_ok_iff.1 h
    cases size : (Float.ofNat w.display.length).isFinite with
    | false => exact .inr (.length reads size)
    | true => exact .inl (.number size)
  | .string .., _, v, h | .boolean .., _, v, h => by
    cases h
    exact .inl nofun
  | .substring line source first last, _, v, h => by
    obtain ⟨w, i, j, -, cut⟩ := cut_of_evaluate h
    exact .inl (Value.isFinite_of_cut cut)
  | .expression line (some l) op (some r), holds, v, h => by
    cases unary : op.isUnary with
    | true =>
      cases op <;> cases unary
      obtain ⟨w, -, rfl⟩ := map_eq_ok_iff.1 h
      exact .inl nofun
    | false =>
      rw [evaluate_binary store line unary] at h
      obtain ⟨a, left, h⟩ := bind_eq_ok_iff.1 h
      obtain ⟨b, right, h⟩ := bind_eq_ok_iff.1 h
      rcases isFinite_of_evaluate literals finite (holds.part .left) left with first | overflows
      · rcases isFinite_of_evaluate literals finite (holds.part .right) right with second | overflows
        · exact isFinite_of_operands left right first second h
        · exact .inr (.right left overflows)
      · exact .inr (.left overflows)
  | .expression line none op (some _), _, v, h | .expression line (some _) op none, _, v, h => by
    cases op with
    | not =>
      obtain ⟨w, -, rfl⟩ := map_eq_ok_iff.1 h
      exact .inl nofun
    | _ => cases h
  | .expression line none op none, _, v, h => by
    cases op <;> cases h
  | .declaration .., _, v, h | .print .., _, v, h | .branch .., _, v, h | .loopUntil .., _, v, h
  | .loopFromTo .., _, v, h | .function .., _, v, h | .ret .., _, v, h
  | .unsupported .., _, v, h => by cases h

/-- What is printed is finite, too. -/
lemma isFinite_of_printed (literals : p.IsFinite) (finite : store.IsFinite) {n : Node}
    (holds : p.Holds .expression n) {action : Action} (prints : n.printed store = .ok action) :
    action.IsFinite ∨ n.Overflows store := by
  unfold printed at prints
  split at prints
  · split at prints
    · rename_i v found
      cases prints
      exact .inl (.print (finite _ v found).primitive)
    · cases prints
      exact .inl (.print .text)
  · obtain ⟨v, evaluates, rfl⟩ := map_eq_ok_iff.1 prints
    rcases isFinite_of_evaluate literals finite holds evaluates with result | overflows
    · exact .inl (.print result.primitive)
    · exact .inr overflows

lemma isFinite_of_evaluateNumber (literals : p.IsFinite) (finite : store.IsFinite) {n : Node}
    (holds : p.Holds .expression n) {context : String} {x : Float}
    (h : n.evaluateNumber store context = .ok x) : x.isFinite = true ∨ n.Overflows store := by
  obtain ⟨v, evaluates, counts⟩ := bind_eq_ok_iff.1 h
  rcases isFinite_of_evaluate literals finite holds evaluates with result | overflows
  · exact .inl (result.requireNumber counts)
  · exact .inr overflows

end Node

/-! ## Runs -/

lemma Store.IsFinite.empty : Store.empty.IsFinite := by
  intro name v found
  cases found

lemma Store.IsFinite.set {store : Store} (finite : store.IsFinite) (name : String) {v : Value}
    (value : v.IsFinite) : (store.set name v).IsFinite := by
  intro other w found
  rw [get?_set] at found
  split at found
  · cases found
    exact value
  · exact finite other w found

lemma Store.IsFinite.counter {store : Store} (finite : store.IsFinite) {name : String} {x : Float}
    (h : store.counter name = .ok x) : x.isFinite = true := by
  unfold Store.counter at h
  split at h
  · cases h
  next reads =>
    cases h
    exact finite name _ (get?_of_read reads) _ rfl
  · cases h

/-- The frames show finite numbers only, and so is the store behind them. -/
structure ShowsFinite (fs : List (Frame Unit)) (store : Store) : Prop where
  actions : ∀ action ∈ Frame.actionsOf fs, action.IsFinite
  store : store.IsFinite

namespace ShowsFinite

variable {store : Store} {fs gs : List (Frame Unit)} {l : UInt32}

lemma append {store' : Store} (first : ShowsFinite fs store') (goes : ShowsFinite gs store) :
    ShowsFinite (fs ++ gs) store where
  actions := by
    rw [Frame.actionsOf_append]
    exact List.forall_mem_append.2 ⟨first.actions, goes.actions⟩
  store := goes.store

lemma plain (finite : store.IsFinite) {action : Action} (shows : action.IsFinite) :
    ShowsFinite [.plain l () action] store where
  actions := List.forall_mem_singleton.2 shows
  store := finite

lemma nil (finite : store.IsFinite) : ShowsFinite [] store where
  actions := List.forall_mem_nil _
  store := finite

lemma check (finite : store.IsFinite) (guard : Guard) (s : State) (result : Bool) :
    ShowsFinite [guard.check s result] store :=
  .plain finite nofun

lemma define {name : String} {params : List String} (body : ShowsFinite fs store) :
    ShowsFinite [.define l () name params fs] store where
  actions := by simpa using body.actions
  store := body.store

lemma set (finite : store.IsFinite) (name : String) {v : Value} (value : v.IsFinite) :
    ShowsFinite [.plain l () (.set name v.type v)] (store.set name v) :=
  .plain (finite.set name value) (.set value)

lemma setNumber (finite : store.IsFinite) (name : String) {x : Float} (number : x.isFinite = true) :
    ShowsFinite [.plain l () (.set name (Value.number x).type (.number x))]
      (store.set name (.number x)) :=
  set finite name (.number number)

/-- Behind a round, the counter of a loop is finite. -/
lemma advance {guard : Guard} {s : State} {step : Run} (finite : s.store.IsFinite)
    (advances : guard.loop.advance s = .ok step) :
    ShowsFinite step.frames step.state.store := by
  cases guard with
  | conditional line condition =>
    rw [Guard.advance_conditional advances]
    exact nil finite
  | counting line counter last =>
    obtain ⟨x, counts, rfl⟩ := Guard.advance_counting advances
    exact setNumber finite counter (Binary.isFinite_add_one (finite.counter counts))

end ShowsFinite

/-- A run that comes to no stage that overflows shows finite numbers only. -/
lemma Runs.showsFinite {p : Program} (literals : p.IsFinite) {budget code s r}
    (runs : Runs budget code s r)
    (spared : ∀ {stage log s'}, Reaches budget code s stage log s' →
      stage.Within p ∧ ¬ stage.Overflows s'.store)
    (finite : s.store.IsFinite) : ShowsFinite r.frames r.state.store := by
  induction runs with
  | @declaration line name value s v evaluates =>
    obtain ⟨holds, spares⟩ := spared .statement
    have result : v.IsFinite :=
      (Node.isFinite_of_evaluate literals finite (.part holds .declared) evaluates).resolve_right
        fun overflows => spares (.declaration overflows)
    exact .set finite name result
  | @print line value s action prints =>
    obtain ⟨holds, spares⟩ := spared .statement
    have shows : action.IsFinite :=
      (Node.isFinite_of_printed literals finite (.part holds .printed) prints).resolve_right
        fun overflows => spares (.print overflows)
    exact .plain finite shows
  | branch checks _ ih =>
    have inner := ih (fun reaches => spared (.branch checks reaches)) finite
    exact .append (.append (.plain finite nofun) inner) (.plain inner.store nofun)
  | loopUntil _ ih =>
    have inner := ih (fun reaches => spared (.loopUntil reaches)) finite
    exact .append (.append (.plain finite nofun) inner) (.plain inner.store nofun)
  | @loopFromTo line counter first last body s x start inner starts sets _ ih =>
    obtain ⟨holds, spares⟩ := spared .statement
    have begins : x.isFinite = true :=
      (Node.isFinite_of_evaluateNumber literals finite (.part holds .start) starts).resolve_right
        fun overflows => spares (.loopFromTo overflows)
    have rounds := ih fun reaches => spared (.loopFromTo starts sets reaches)
    subst sets
    have set := ShowsFinite.setNumber (l := s.lineOf line) finite counter begins
    have inner := rounds set.store
    exact .append (.append (.append set (.plain set.store nofun)) inner) (.plain inner.store nofun)
  | function _ ih => exact .define (ih (fun reaches => spared (.function reaches)) finite)
  | ret => exact .plain finite nofun
  | nil => exact .nil finite
  | returned _ _ ih => exact ih (fun reaches => spared (.first reaches)) finite
  | next runs flow _ ih ihgoes =>
    have first := ih (fun reaches => spared (.first reaches)) finite
    exact .append first (ihgoes (fun reaches => spared (.next runs flow reaches)) first.store)
  | stop => exact .check finite ..
  | cut checks _ _ ih =>
    exact .append (.check finite ..) (ih (fun reaches => spared (.round checks reaches)) finite)
  | again checks runs flow advances _ ih ihgoes =>
    have round := ih (fun reaches => spared (.round checks reaches)) finite
    have step := ShowsFinite.advance round.store advances
    have rest := ihgoes (fun reaches => spared (.again checks runs flow advances reaches)) step.store
    exact .append (.append (.append (.check finite ..) round) step) rest

namespace Program

variable {p : Program}

/-- Unless the run of a program with finite numbers comes to a stage that overflows, its trace shows
finite numbers only. -/
lemma isFinite_of_trace (literals : p.IsFinite) {budget : Budget} {clock : Clock} {t : Trace}
    (h : p.trace budget clock = .ok t)
    (spared : ∀ stage log s, p.ComesTo budget stage log s → ¬ stage.Overflows s.store) :
    ∀ action ∈ Frame.actionsOf t.frames, action.IsFinite := by
  obtain ⟨r, runs, rfl⟩ := trace_eq_ok_iff.1 h
  rw [Frame.actionsOf_stampAll]
  have within : (Code.block p.statements).Within p := fun n mem => .statement mem
  exact (runs.showsFinite literals
    (fun reaches => ⟨reaches.within within, spared _ _ _ reaches⟩) .empty).actions

/-- Every number that the trace of a text sets or prints is finite and stands in the document as a
number, unless the run of its program comes to a stage that overflows. -/
theorem traceText_finite {budget : Budget} {clock : Clock} {text : String} {t : Trace}
    (h : traceText budget clock text = .ok t) :
    (∀ action ∈ Frame.actionsOf t.frames, ∀ x, action.value? = some (.number x) →
      x.isFinite = true ∧ ∃ n, numberJson x = .number n ∧ n.isInRange = true) ∨
    ∃ p, ofText? text = some p ∧
      ∃ stage log s, p.ComesTo budget stage log s ∧ stage.Overflows s.store := by
  unfold traceText at h
  split at h
  next p read =>
    refine or_iff_not_imp_right.2 fun spared action mem x shows => ?_
    have finite : x.isFinite = true :=
      isFinite_of_trace (isFinite_of_ofText? read) h
        (fun stage log s comes overflows => spared ⟨p, read, stage, log, s, comes, overflows⟩)
        action mem _ shows x rfl
    rcases numberJson_cases x with ⟨-, written⟩ | ⟨infinite, -⟩
    · exact ⟨finite, written⟩
    · cases finite.symm.trans infinite
  next => cases h

end Program

/-- One with 308 zeros behind it. -/
def vast : Numeral := ⟨false, 1, 0, some 308⟩

/-- A variable is set to a product that is too large. -/
def outgrowing : List (String × Json) :=
  [("type", .string "VariableDeclaration"), ("name", .string "x"),
    ("value", .object [("type", .string "Expression"), ("left", .number vast),
      ("operator", .string "*"), ("right", Json.ofInt 10)]),
    ("line", Json.ofInt 1)]

/-- The text of a document with this statement. -/
def outgrowingText : String :=
  Json.render false (.object [("program", .array [.object outgrowing])])

/-- The number that the variable is set to. -/
def outgrown : Float := vast.jsonFloat * (Numeral.ofInt 10).jsonFloat

lemma outgrown_infinite : outgrown.isFinite = false := by
  decide +kernel

lemma fits_outgrowing : Json.Fits 2 (.object outgrowing) := by
  have range : vast.isInRange = true := by decide +kernel
  have whole {d : Nat} {i : Int} (word : i.natAbs < UInt64.size) : Json.Fits d (Json.ofInt i) :=
    .number (Numeral.isInRange_ofInt word)
  have value : Json.Fits 1 (.object [("type", .string "Expression"), ("left", .number vast),
      ("operator", .string "*"), ("right", Json.ofInt 10)]) := by
    refine .object ?_ (by decide)
    simp only [List.forall_mem_cons]
    exact ⟨.string, .number range, .string, whole (by decide), nofun⟩
  refine .object ?_ (by decide)
  simp only [outgrowing, List.forall_mem_cons]
  exact ⟨.string, .string, value, whole (by decide), nofun⟩

/-- The program in this document. -/
def outgrows : Program where
  statements := [
    .declaration (some 1) "x" (.expression none (some (.number none vast.jsonFloat)) .mul
      (some (.number none (Numeral.ofInt 10).jsonFloat)))]

lemma ofText?_outgrowingText : Program.ofText? outgrowingText = some outgrows :=
  Program.ofText?_render (List.forall_mem_singleton.2 (fits_outgrowing.mono (by decide))) false

lemma exists_trace_outgrowingText : ∃ t,
    Program.traceText (.limit 5) (.steps 0 1) outgrowingText = .ok t ∧
      Frame.actionsOf t.frames = [.set "x" .number (.number outgrown)] := by
  rw [Program.traceText, ofText?_outgrowingText]
  exact ⟨_, rfl, rfl⟩

/-- All numbers in this document are finite, and the one in its trace is `null`. -/
theorem fields_null_outgrowing : outgrows.IsFinite ∧ ∃ t x,
    Program.ofText? outgrowingText = some outgrows ∧
      Program.traceText (.limit 5) (.steps 0 1) outgrowingText = .ok t ∧
      .set "x" .number (.number x) ∈ Frame.actionsOf t.frames ∧
      (Action.set "x" .number (.number x)).fields =
        [("varName", .string "x"), ("type", .string "number"), ("value", .null)] := by
  obtain ⟨t, h, actions⟩ := exists_trace_outgrowingText
  refine ⟨Program.isFinite_of_ofText? ofText?_outgrowingText, t, outgrown, ofText?_outgrowingText, h,
    ?_, ?_⟩
  · rw [actions]
    exact List.mem_singleton.2 rfl
  · rcases numberJson_cases outgrown with ⟨finite, -⟩ | ⟨-, null⟩
    · cases finite.symm.trans outgrown_infinite
    · show [_, _, ("value", numberJson outgrown)] = _
      rw [null]
      rfl

/-- The run of the program in this document comes to a stage that overflows. -/
theorem traceText_finite_outgrowing :
    (∃ t, Program.traceText (.limit 5) (.steps 0 1) outgrowingText = .ok t) ∧
    ∃ p, Program.ofText? outgrowingText = some p ∧
      ∃ stage log s, p.ComesTo (.limit 5) stage log s ∧ stage.Overflows s.store := by
  obtain ⟨t, h, actions⟩ := exists_trace_outgrowingText
  refine ⟨⟨t, h⟩, (Program.traceText_finite h).resolve_left fun shows => ?_⟩
  rw [actions] at shows
  have finite := (shows _ (List.mem_singleton.2 rfl) _ rfl).1
  cases finite.symm.trans outgrown_infinite

end Playback
