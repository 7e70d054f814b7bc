import Playback.Proofs.Nesting
import Playback.Proofs.StoreLog

/-!
# Origins of values

What a trace shows of a value can be checked against the frames before it. A variable is set to a value
of the type that is shown; what is printed shows no origin; and a slice names a variable that was set
before, and is the part between its bounds of the text that this variable had. Where the bounds lie
outside the text they are limited to it (`clamp`).

Main statement: every action of a trace follows from the actions before it (`Program.trace_sound`).
-/

namespace Playback

/-- The position that an index stands for among so many characters. -/
def clamp (length : Nat) (i : Int) : Nat :=
  (max 0 (min i length)).toNat

/-- The slice is the part of the text between its bounds. -/
structure Slice.IsPartOf (s : Slice) (text : String) : Prop where
  ordered : s.first ≤ s.last
  result : s.result.toList =
    (text.toList.take (clamp text.toList.length s.last)).drop (clamp text.toList.length s.first)

/-- What the action shows of a value follows from the actions before. -/
def Action.FollowsFrom (before : List Action) : Action → Prop
  | set _ type value => type = value.type ∧ ∀ s, value = .slice s →
    ∃ type v, lastSet s.source before = some (type, v) ∧ s.IsPartOf v.display
  | print _ _ literal => ∀ s, literal ≠ .slice s
  | _ => True

/-- Every action follows from those before it. -/
def Sound (actions : List Action) : Prop :=
  ∀ before action after, actions = before ++ action :: after → action.FollowsFrom before

namespace Sound

lemma nil : Sound [] := by
  intro before action after split
  simp at split

lemma snoc {actions : List Action} {action : Action} (sound : Sound actions)
    (follows : action.FollowsFrom actions) : Sound (actions ++ [action]) := by
  intro before action' after split
  rcases snoc_eq_append_cons split with ⟨rfl, rfl⟩ | ⟨after', earlier⟩
  · exact follows
  · exact sound before action' after' earlier

end Sound

/-! ## What is cut out -/

lemma min_toNat_eq_clamp (length : Nat) (i : Int) : min i.toNat length = clamp length i := by
  unfold clamp
  omega

/-- What lies between two bounds is what stands before the one and not before the other. -/
lemma between_eq_drop_take {α : Type} (xs : List α) (first last : Int) :
    between xs first last = (xs.take (clamp xs.length last)).drop (clamp xs.length first) := by
  rw [List.drop_take, ← min_toNat_eq_clamp, ← min_toNat_eq_clamp]
  rfl

lemma Value.isPartOf_of_cut {v : Value} {source : String} {first last : Int} {s : Slice}
    (h : v.cut source first last = .ok (.slice s)) : s.source = source ∧ s.IsPartOf v.display := by
  rw [cut] at h
  split at h
  next => cases h
  next ordered =>
    cases h
    refine ⟨rfl, Int.not_lt.1 ordered, ?_⟩
    rw [String.toList_ofList, between_eq_drop_take]

/-- A slice is a part of the text that its variable has in the store. -/
lemma Node.isPartOf_of_evaluate {n : Node} {store : Store} {s : Slice}
    (h : n.evaluate store = .ok (.slice s)) :
    ∃ v, store.get? s.source = some v ∧ s.IsPartOf v.display := by
  obtain ⟨-, line, source, first, last, rfl⟩ := isBounded_of_evaluate h
  obtain ⟨v, i, j, reads, h⟩ := cut_of_evaluate h
  obtain ⟨rfl, part⟩ := Value.isPartOf_of_cut h
  exact ⟨v, Store.get?_of_read reads, part⟩

/-- What is printed has lost its origin. -/
lemma Node.followsFrom_of_printed {n : Node} {store : Store} {action : Action}
    (prints : n.printed store = .ok action) (before : List Action) : action.FollowsFrom before := by
  unfold printed at prints
  split at prints
  · split at prints
    · cases prints
      exact Value.primitive_ne_slice _
    · cases prints
      exact nofun
  · obtain ⟨v, -, rfl⟩ := map_eq_ok_iff.1 prints
    exact v.primitive_ne_slice

/-! ## Runs -/

/-- Behind the frames the store is still faithful, and what they show follows from what was before. -/
structure Justifies (store : Store) (fs : List (Frame Unit)) (store' : Store) : Prop
    extends Keeps store fs store' where
  sound : ∀ before, Faithful store before → Sound before → Sound (before ++ Frame.actionsOf fs)

namespace Justifies

variable {store store' store'' : Store} {fs gs : List (Frame Unit)} {l : UInt32}

lemma nil : Justifies store [] store where
  toKeeps := .nil
  sound before _ sound := by simpa using sound

lemma append (first : Justifies store fs store') (goes : Justifies store' gs store'') :
    Justifies store (fs ++ gs) store'' where
  toKeeps := first.toKeeps.append goes.toKeeps
  sound before faithful sound := by
    have later := goes.sound _ (first.onto before faithful) (first.sound before faithful sound)
    rwa [List.append_assoc, ← Frame.actionsOf_append] at later

lemma define {name : String} {params : List String} (body : Justifies store fs store') :
    Justifies store [.define l () name params fs] store' where
  toKeeps := body.toKeeps.define
  sound before faithful sound := by simpa using body.sound before faithful sound

/-- A frame that shows no value. -/
lemma plain {action : Action} (sets : ∀ name, action.set? name = none := by exact fun _ => rfl)
    (prints : ∀ name literal, action ≠ .print false name literal := by nofun)
    (follows : ∀ before, action.FollowsFrom before := by exact fun _ => trivial) :
    Justifies store [.plain l () action] store where
  toKeeps := .plain sets prints
  sound before _ sound := sound.snoc (follows before)

/-- A variable is set to a value; if it is a slice, it is a part of what the store holds. -/
lemma set (name : String) {v : Value}
    (cut : ∀ s, v = .slice s → ∃ w, store.get? s.source = some w ∧ s.IsPartOf w.display) :
    Justifies store [.plain l () (.set name v.type v)] (store.set name v) where
  toKeeps := .set name v
  sound before faithful sound := by
    refine sound.snoc ⟨rfl, fun s hs => ?_⟩
    obtain ⟨w, hget, part⟩ := cut s hs
    have last := faithful.get?_eq s.source
    rw [hget] at last
    exact ⟨_, w, last.symm, part⟩

lemma setNumber (name : String) (x : Float) :
    Justifies store [.plain l () (.set name (Value.number x).type (.number x))]
      (store.set name (.number x)) :=
  set name nofun

lemma print {n : Node} {action : Action} (prints : n.printed store = .ok action) :
    Justifies store [.plain l () action] store where
  toKeeps := .print prints
  sound before _ sound := sound.snoc (Node.followsFrom_of_printed prints before)

lemma advance {guard : Guard} {s : State} {step : Run}
    (advances : guard.loop.advance s = .ok step) :
    Justifies s.store step.frames step.state.store := by
  cases guard with
  | conditional line condition =>
    rw [Guard.advance_conditional advances]
    exact nil
  | counting line counter last =>
    obtain ⟨x, -, rfl⟩ := Guard.advance_counting advances
    exact setNumber ..

end Justifies

/-- What the frames of a run show follows from what was before. -/
lemma Runs.justifies {budget code s r} (runs : Runs budget code s r) :
    Justifies s.store r.frames r.state.store := by
  induction runs with
  | declaration evaluates =>
    refine .set _ fun slice hslice => ?_
    subst hslice
    exact Node.isPartOf_of_evaluate evaluates
  | print prints => exact .print prints
  | branch _ _ ih => exact .append (.append .plain ih) .plain
  | loopUntil _ ih => exact .append (.append .plain ih) .plain
  | loopFromTo _ sets _ ih =>
    subst sets
    exact .append (.append (.append (.setNumber ..) .plain) ih) .plain
  | function _ ih => exact .define ih
  | ret => exact .plain
  | nil => exact .nil
  | returned _ _ ih => exact ih
  | next _ _ _ ih ihgoes => exact .append ih ihgoes
  | stop => exact .plain
  | cut _ _ _ ih => exact .append .plain ih
  | again _ _ _ advances _ ih ihgoes =>
    exact .append (.append (.append .plain ih) (.advance advances)) ihgoes

namespace Program

/-- Every action of a trace follows from those before it: a variable is set to a value of the type that
is shown, a slice is the part between its bounds of the text that was last set for its source, and
nothing printed is a slice. -/
theorem trace_sound {p : Program} {budget : Budget} {clock : Clock} {t : Trace}
    (h : p.trace budget clock = .ok t) : Sound (Frame.actionsOf t.frames) := by
  obtain ⟨r, runs, rfl⟩ := trace_eq_ok_iff.1 h
  rw [Frame.actionsOf_stampAll]
  exact runs.justifies.sound [] .empty .nil

end Program

/-- A part of a text is cut out in a function, with bounds outside the text, and a part of the part
takes its place. -/
def cutsTwice : Program where
  statements := [
    .declaration (some 1) "s" (.string none "né"),
    .function (some 2) "f" [] [
      .declaration (some 3) "t" (.substring none "s" (.number none (-2)) (.number none 9))],
    .declaration (some 4) "t" (.substring none "t" (.number none 1) (.number none 2.5))]

/-- The last slice of `cutsTwice` is a part of the one before it, which has the name of its source. -/
theorem trace_sound_cutsTwice : ∃ t before,
    cutsTwice.trace (.limit 5) (.steps 0 1) = .ok t ∧
      Frame.actionsOf t.frames = before ++ [.set "t" .text (.slice ⟨"t", 1, 2, "é"⟩)] ∧
      lastSet "t" before = some (.text, .slice ⟨"s", -2, 9, "né"⟩) ∧
      ∃ type v, lastSet "t" before = some (type, v) ∧ Slice.IsPartOf ⟨"t", 1, 2, "é"⟩ v.display := by
  let before : List Action := [
    .set "s" .text (.text "né"), .set "t" .text (.slice ⟨"s", -2, 9, "né"⟩)]
  have compiles : ∃ t, cutsTwice.trace (.limit 5) (.steps 0 1) = .ok t ∧
      Frame.actionsOf t.frames = before ++ [.set "t" .text (.slice ⟨"t", 1, 2, "é"⟩)] := ⟨_, rfl, rfl⟩
  obtain ⟨t, h, actions⟩ := compiles
  have follows := Program.trace_sound h before _ [] actions
  exact ⟨t, before, h, actions, rfl, follows.2 _ rfl⟩

end Playback
