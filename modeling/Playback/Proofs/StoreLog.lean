import Playback.Proofs.Forest
import Playback.Proofs.Reads

/-!
# The trace as a log of the store

What a run sets can be read off its frames. `lastSet name actions` is what was last set for the
variable, and `Faithful store actions` says that the store holds just that for every variable, and that
each variable was printed as it was last set before. This is so at all points of a run.

Main statement: the store is the log of its frames at every point of a run, and a variable is missing
for a read, or for a print, exactly when the frames up to there do not set it (`Program.logs_store`).
-/

namespace Playback

/-- What the action sets for the variable. -/
def Action.set? (name : String) : Action → Option (ValueType × Value)
  | set other type value => if other = name then some (type, value) else none
  | _ => none

/-- What was last set for the variable. -/
def lastSet (name : String) (actions : List Action) : Option (ValueType × Value) :=
  (actions.filterMap (Action.set? name)).getLast?

/-- The variable was never set. -/
def Unset (name : String) (actions : List Action) : Prop :=
  ∀ type value, Action.set name type value ∉ actions

/-- The store is what the actions say. -/
structure Faithful (store : Store) (actions : List Action) : Prop where
  /-- A variable has the type and the value that were last set. -/
  get?_eq : ∀ name, (store.get? name).map (fun v => (v.type, v)) = lastSet name actions
  /-- A variable is printed as it was last set before, and a slice as its text. -/
  prints : ∀ before after name literal, actions = before ++ .print false name literal :: after →
    ∃ x type v, name = some x ∧ lastSet x before = some (type, v) ∧ literal = v.primitive

lemma lastSet_append (name : String) (actions : List Action) (action : Action) :
    lastSet name (actions ++ [action]) = (action.set? name).or (lastSet name actions) := by
  unfold lastSet
  rw [List.filterMap_append]
  cases h : action.set? name with
  | none => simp [h]
  | some what => simp [h]

lemma lastSet_eq_none_iff {name : String} {actions : List Action} :
    lastSet name actions = none ↔ Unset name actions := by
  unfold lastSet
  rw [List.getLast?_eq_none_iff, List.filterMap_eq_nil_iff]
  constructor
  · intro h type value mem
    have := h _ mem
    simp [Action.set?] at this
  · intro h action mem
    cases action with
    | set other type value =>
      rw [Action.set?, if_neg]
      rintro rfl
      exact h type value mem
    | _ => rfl

namespace Faithful

variable {store : Store} {actions : List Action}

lemma empty : Faithful .empty [] where
  get?_eq _ := rfl
  prints before after name literal split := by simp at split

/-- One more action: what it sets is in the store, and what it prints was in the store. -/
lemma snoc {store' : Store} {action : Action} (faithful : Faithful store actions)
    (sets : ∀ name, (store'.get? name).map (fun v => (v.type, v)) =
      (action.set? name).or ((store.get? name).map fun v => (v.type, v)))
    (prints : ∀ name literal, action = .print false name literal →
      ∃ x v, name = some x ∧ store.get? x = some v ∧ literal = v.primitive) :
    Faithful store' (actions ++ [action]) where
  get?_eq name := by rw [sets, faithful.get?_eq, lastSet_append]
  prints before after name literal split := by
    rcases snoc_eq_append_cons split with ⟨rfl, last⟩ | ⟨after', earlier⟩
    · obtain ⟨x, v, hname, hget, hliteral⟩ := prints name literal last.symm
      have hlast := faithful.get?_eq x
      rw [hget] at hlast
      exact ⟨x, v.type, v, hname, hlast.symm, hliteral⟩
    · exact faithful.prints before after' name literal earlier

end Faithful

/-- Behind the frames, the store is faithful to what was before them and to them. -/
structure Keeps (store : Store) (fs : List (Frame Unit)) (store' : Store) : Prop where
  onto : ∀ before, Faithful store before → Faithful store' (before ++ Frame.actionsOf fs)

namespace Keeps

variable {store store' store'' : Store} {fs gs : List (Frame Unit)} {l : UInt32}

lemma nil : Keeps store [] store := by
  refine ⟨fun before faithful => ?_⟩
  simpa using faithful

lemma append (first : Keeps store fs store') (goes : Keeps store' gs store'') :
    Keeps store (fs ++ gs) store'' := by
  refine ⟨fun before faithful => ?_⟩
  have later := goes.onto _ (first.onto before faithful)
  rwa [List.append_assoc, ← Frame.actionsOf_append] at later

lemma define {name : String} {params : List String} (body : Keeps store fs store') :
    Keeps store [.define l () name params fs] store' := by
  refine ⟨fun before faithful => ?_⟩
  simpa using body.onto before faithful

/-- A frame that neither sets nor prints a variable. -/
lemma plain {action : Action} (sets : ∀ name, action.set? name = none := by exact fun _ => rfl)
    (prints : ∀ name literal, action ≠ .print false name literal := by nofun) :
    Keeps store [.plain l () action] store := by
  refine ⟨fun before faithful => ?_⟩
  refine faithful.snoc (fun name => ?_) fun name literal h => absurd h (prints name literal)
  rw [sets, Option.none_or]

lemma set (name : String) (v : Value) :
    Keeps store [.plain l () (.set name v.type v)] (store.set name v) := by
  refine ⟨fun before faithful => ?_⟩
  refine faithful.snoc (fun other => ?_) nofun
  rw [Store.get?_set, Action.set?]
  split <;> rfl

lemma print {n : Node} {action : Action} (prints : n.printed store = .ok action) :
    Keeps store [.plain l () action] store := by
  rcases Node.printed_cases prints with ⟨name, v, hget, rfl⟩ | ⟨literal, rfl⟩
  · refine ⟨fun before faithful => faithful.snoc (fun _ => rfl) fun name' literal h => ?_⟩
    cases h
    exact ⟨name, v, rfl, hget, rfl⟩
  · exact plain

/-- Behind a round, a loop sets its counter or nothing. -/
lemma advance {guard : Guard} {s : State} {step : Run}
    (advances : guard.loop.advance s = .ok step) : Keeps s.store step.frames step.state.store := by
  cases guard with
  | conditional line condition =>
    rw [Guard.advance_conditional advances]
    exact nil
  | counting line counter last =>
    obtain ⟨x, -, rfl⟩ := Guard.advance_counting advances
    exact set ..

end Keeps

/-- A run keeps the store faithful. -/
lemma Runs.keeps {budget code s r} (runs : Runs budget code s r) :
    Keeps s.store r.frames r.state.store := by
  induction runs with
  | declaration => exact .set ..
  | print prints => exact .print prints
  | branch _ _ ih => exact .append (.append .plain ih) .plain
  | loopUntil _ ih => exact .append (.append .plain ih) .plain
  | loopFromTo _ sets _ ih =>
    subst sets
    exact .append (.append (.append (.set ..) .plain) ih) .plain
  | function _ ih => exact .define ih
  | ret => exact .plain
  | nil => exact .nil
  | returned _ _ ih => exact ih
  | next _ _ _ ih ihgoes => exact .append ih ihgoes
  | stop => exact .plain
  | cut _ _ _ ih => exact .append .plain ih
  | again _ _ _ advances _ ih ihgoes =>
    exact .append (.append (.append .plain ih) (.advance advances)) ihgoes

/-- At every stage that a run comes to, the store is faithful to the frames up to there. -/
lemma Reaches.keeps {budget code s stage log s'} (reaches : Reaches budget code s stage log s') :
    Keeps s.store log s'.store := by
  induction reaches with
  | statement => exact .nil
  | branch _ _ ih => exact .append .plain ih
  | loopUntil _ ih => exact .append .plain ih
  | loopFromTo _ sets _ ih =>
    subst sets
    exact .append (.set ..) (.append .plain ih)
  | function _ ih => exact ih
  | first _ ih => exact ih
  | next runs _ _ ih => exact .append runs.keeps ih
  | check => exact .nil
  | round _ _ ih => exact .append .plain ih
  | advance _ runs _ => exact .append .plain runs.keeps
  | again _ runs _ advances _ ih =>
    exact .append (.append (.append .plain runs.keeps) (.advance advances)) ih
  | ended runs => exact runs.keeps

/-- What is done in the one list stands at the beginning of what is done in the other. -/
def Leads (fs gs : List (Frame Unit)) : Prop :=
  Frame.actionsOf fs <+: Frame.actionsOf gs

namespace Leads

variable {fs gs : List (Frame Unit)}

lemma nil : Leads [] fs :=
  List.nil_prefix

lemma refl : Leads fs fs :=
  List.prefix_refl _

lemma behind (hs : List (Frame Unit)) (leads : Leads fs gs) : Leads (hs ++ fs) (hs ++ gs) := by
  unfold Leads
  rw [Frame.actionsOf_append, Frame.actionsOf_append]
  exact (List.prefix_append_right_inj _).2 leads

lemma before (hs : List (Frame Unit)) (leads : Leads fs gs) : Leads fs (gs ++ hs) := by
  unfold Leads
  rw [Frame.actionsOf_append]
  exact leads.trans (List.prefix_append ..)

end Leads

/-- What is done up to a stage of a run stands at the beginning of all that the run does. -/
lemma Reaches.leads {budget code s stage log s' r} (reaches : Reaches budget code s stage log s')
    (runs : Runs budget code s r) : Leads log r.frames := by
  induction reaches generalizing r with
  | statement => exact .nil
  | branch checks _ ih =>
    cases runs with
    | branch checks' inner =>
      cases checks.symm.trans checks'
      exact .before _ (.behind [_] (ih inner))
  | loopUntil _ ih =>
    cases runs with
    | loopUntil inner => exact .before _ (.behind [_] (ih inner))
  | loopFromTo starts sets _ ih =>
    cases runs with
    | loopFromTo starts' sets' inner =>
      cases starts.symm.trans starts'
      subst sets sets'
      exact .before _ (.behind [_, _] (ih inner))
  | function _ ih =>
    cases runs with
    | function inner =>
      have leads := ih inner
      unfold Leads at leads ⊢
      simpa using leads
  | first _ ih =>
    cases runs with
    | returned first => exact ih first
    | next first _ goes => exact .before _ (ih first)
  | next first flow _ ih =>
    cases runs with
    | returned first' flow' =>
      cases first.unique first'
      rw [flow] at flow'
      cases flow'
    | next first' _ goes =>
      cases first.unique first'
      exact .behind _ (ih goes)
  | check => exact .nil
  | round checks _ ih =>
    cases runs with
    | stop checks' => cases checks.symm.trans checks'
    | cut _ round => exact .behind [_] (ih round)
    | again _ round => exact .before _ (.before _ (.behind [_] (ih round)))
  | advance checks round flow =>
    cases runs with
    | stop checks' => cases checks.symm.trans checks'
    | cut _ round' flow' =>
      cases round.unique round'
      rw [flow] at flow'
      cases flow'
    | again _ round' =>
      cases round.unique round'
      exact .before _ (.before _ .refl)
  | again checks round flow advances _ ih =>
    cases runs with
    | stop checks' => cases checks.symm.trans checks'
    | cut _ round' flow' =>
      cases round.unique round'
      rw [flow] at flow'
      cases flow'
    | again _ round' _ advances' goes =>
      cases round.unique round'
      cases advances.symm.trans advances'
      exact .behind _ (ih goes)
  | ended runs' =>
    cases runs'.unique runs
    exact .refl

/-! ## Points of a run -/

/-- The run of the program comes to the stage in the state `s`, behind the frames `log`. -/
def Program.ComesTo (p : Program) (budget : Budget) (stage : Stage) (log : List (Frame Unit))
    (s : State) : Prop :=
  Reaches budget (.block p.statements) .initial stage log s

/-- What is there at a point of a run, and what is missing, is told by the actions up to there. -/
structure Tells (budget : Budget) (actions : List Action) (stage : Stage) (s : State) : Prop where
  faithful : Faithful s.store actions
  /-- A read fails exactly when the variable was not set. -/
  reads : ∀ name, stage.Reads s.store name →
    (stage.Halts budget s (.fault (.undeclared name)) ↔ Unset name actions)
  /-- A name is printed as a text exactly when it was not set. -/
  prints : ∀ line l name, stage = .statement (.print line (.identifier l name)) → ∃ action,
    (Node.print line (.identifier l name)).run budget s = .ok (s.step line action .next) ∧
      (action = .print true none (.text name) ↔ Unset name actions)

namespace Faithful

variable {budget : Budget} {s : State} {actions : List Action}

lemma get?_eq_none_iff {store : Store} (faithful : Faithful store actions) (name : String) :
    store.get? name = none ↔ Unset name actions := by
  rw [← lastSet_eq_none_iff, ← faithful.get?_eq, Option.map_eq_none_iff]

lemma tells (faithful : Faithful s.store actions) (stage : Stage) :
    Tells budget actions stage s where
  faithful := faithful
  reads name reads := by
    rw [Stage.halts_undeclared_iff, ← faithful.get?_eq_none_iff]
    exact and_iff_right reads
  prints line l name _ := by
    rw [← faithful.get?_eq_none_iff]
    cases h : s.store.get? name with
    | none =>
      refine ⟨.print true none (.text name), ?_, by simp⟩
      simp [Node.run, Node.printed, h, bind, Except.bind]
    | some v =>
      refine ⟨.print false (some name) v.primitive, ?_, by simp⟩
      simp [Node.run, Node.printed, h, bind, Except.bind]

end Faithful

namespace Program

variable {p : Program} {budget : Budget} {stage : Stage} {log : List (Frame Unit)} {s : State}

lemma ComesTo.faithful (comes : p.ComesTo budget stage log s) :
    Faithful s.store (Frame.actionsOf log) :=
  comes.keeps.onto [] .empty

lemma trace_undeclared_iff {clock : Clock} {name : String} :
    p.trace budget clock = .error (.fault (.undeclared name)) ↔
      ∃ stage log s, p.ComesTo budget stage log s ∧ stage.Reads s.store name ∧
        Unset name (Frame.actionsOf log) := by
  rw [trace_eq_error_iff]
  constructor
  · rintro ⟨stage, log, s, comes, halts⟩
    obtain ⟨reads, unset⟩ := Stage.halts_undeclared_iff.1 halts
    exact ⟨stage, log, s, comes, reads, (ComesTo.faithful comes).get?_eq_none_iff name |>.1 unset⟩
  · rintro ⟨stage, log, s, comes, reads, unset⟩
    have missing := (comes.faithful.get?_eq_none_iff name).2 unset
    exact ⟨stage, log, s, comes, Stage.halts_undeclared_iff.2 ⟨reads, missing⟩⟩

/-- At every point of a run, what the store holds and what it misses is told by the frames up to
there; they stand at the beginning of the trace, which is itself what the frames at the end are. -/
theorem logs_store (p : Program) (budget : Budget) (clock : Clock) :
    (∀ stage log s, p.ComesTo budget stage log s →
      Tells budget (Frame.actionsOf log) stage s) ∧
    (∀ name, p.trace budget clock = .error (.fault (.undeclared name)) ↔
      ∃ stage log s, p.ComesTo budget stage log s ∧ stage.Reads s.store name ∧
        Unset name (Frame.actionsOf log)) ∧
    ∀ t, p.trace budget clock = .ok t →
      (∀ stage log s, p.ComesTo budget stage log s →
        Frame.actionsOf log <+: Frame.actionsOf t.frames) ∧
      ∃ log s, p.ComesTo budget .ended log s ∧ Frame.actionsOf log = Frame.actionsOf t.frames ∧
        Faithful s.store (Frame.actionsOf t.frames) := by
  refine ⟨fun stage log s comes => comes.faithful.tells stage, fun name => trace_undeclared_iff,
    fun t h => ?_⟩
  -- the trace is what is there at the end of the run, with its times
  obtain ⟨r, runs, rfl⟩ := trace_eq_ok_iff.1 h
  have ended : p.ComesTo budget .ended r.frames r.state := .ended runs
  rw [Frame.actionsOf_stampAll]
  exact ⟨fun stage log s comes => comes.leads runs, _, _, ended, rfl, ended.faithful⟩

end Program

/-- A variable that a function sets is printed behind it, and another one is not set anywhere. -/
def missesVariable : Program where
  statements := [
    .function (some 1) "f" [] [.declaration (some 2) "x" (.string none "a")],
    .print (some 3) (.identifier none "x"),
    .print (some 4) (.identifier none "y"),
    .declaration (some 5) "z" (.length none "y")]

/-- The run of `missesVariable` comes to a read of a variable that was not set. -/
theorem logs_store_missesVariable : ∃ stage log s,
    missesVariable.ComesTo (.limit 5) stage log s ∧ stage.Reads s.store "y" ∧
      Unset "y" (Frame.actionsOf log) := by
  obtain ⟨-, undeclared, -⟩ := Program.logs_store missesVariable (.limit 5) (.steps 0 1)
  exact (undeclared "y").1 rfl

end Playback
