import Playback.Fixture
import Playback.Proofs.Printing
import Mathlib.Data.List.Forall2
import Mathlib.Tactic.Lemma

/-!
# Files of fixtures

`Fixture.Writes` says by rules which value writes a fixture: an object, in which the name and the program
are given once and the expectations once or not at all, or a list of the same values in this order. Other
fields of the object are not looked at. Where no output is given, the program is expected to print
nothing, and where no fault is given, or `null`, none is expected.

Main statement: the fixtures of a text are those that the values in its list write, one for each
(`Fixture.ofText?_eq_some_iff`).
-/

namespace Playback

/-- Something is read from each element of a list. -/
lemma mapM_eq_some_iff {α β : Type} {read : α → Option β} {R : α → β → Prop}
    (h : ∀ {x y}, read x = some y ↔ R x y) {xs : List α} {ys : List β} :
    xs.mapM read = some ys ↔ List.Forall₂ R xs ys := by
  induction xs generalizing ys with
  | nil =>
    rw [List.mapM_nil, List.forall₂_nil_left_iff]
    exact ⟨fun heq => (Option.some.inj heq).symm, fun heq => heq ▸ rfl⟩
  | cons x xs ih =>
    rw [List.mapM_cons, List.forall₂_cons_left_iff]
    simp only [Option.bind_eq_bind, Option.bind_eq_some_iff, h, ih]
    constructor
    · rintro ⟨y, first, ys, rest, heq⟩
      exact ⟨y, ys, first, rest, (Option.some.inj heq).symm⟩
    · rintro ⟨y, ys, first, rest, rfl⟩
      exact ⟨y, first, ys, rest, rfl⟩

/-- The value is a string that spells this text. -/
inductive RawJson.Spells : RawJson → String → Prop where
  | string {ps text} (decodes : decodeText? ps = some text) : Spells (.string ps) text

lemma Json.spells_spelled (text : String) : RawJson.Spells (spelled (.string text)) text :=
  .string (decodeText?_chars text)

namespace Fixture

/-- What stands where the expected output may be given, and the texts that are expected. -/
inductive WritesOutput : List RawJson → List String → Prop where
  | absent : WritesOutput [] []
  | given {vs texts} (spell : List.Forall₂ RawJson.Spells vs texts) : WritesOutput [.array vs] texts

/-- What stands where the expected fault may be given, and what is expected. -/
inductive WritesError : List RawJson → Option String → Prop where
  | absent : WritesError [] none
  | null : WritesError [.null] none
  | given {v : RawJson} {text} (spells : v.Spells text) : WritesError [v] (some text)

/-- The value, which stands in the list of a file, writes the fixture. The document of the program stands
inside two containers, the list and the value. -/
inductive Writes : RawJson → Fixture → Prop where
  | object {fs fields} {v : RawJson} {name p program output error}
      (names : RawJson.namedFields? fs = some fields)
      (called : RawJson.named "name" fields = [v]) (spells : v.Spells name)
      (holds : RawJson.named "program" fields = [p])
      (reads : Program.ofRaw? (RawJson.depthLimit - 2) p = some program)
      (prints : WritesOutput (RawJson.named "expectedOutput" fields) output)
      (fails : WritesError (RawJson.named "expectedError" fields) error) :
      Writes (.object fs) ⟨name, program, output, error⟩
  | list {v : RawJson} {name p program rest output error} (spells : v.Spells name)
      (reads : Program.ofRaw? (RawJson.depthLimit - 2) p = some program)
      (prints : WritesOutput (rest.take 1) output) (fails : WritesError (rest.drop 1) error) :
      Writes (.array (v :: p :: rest)) ⟨name, program, output, error⟩

/-- The text of a file writes these fixtures. -/
def Lists (text : String) (fixtures : List Fixture) : Prop :=
  ∃ vs, RawJson.ofText? text = some (.array vs) ∧ List.Forall₂ Writes vs fixtures

/-! ## Fields -/

lemma text?_eq_some_iff {v : RawJson} {text : String} : text? v = some text ↔ v.Spells text := by
  constructor
  · intro h
    cases v with
    | string ps => exact .string h
    | _ => cases h
  · rintro ⟨decodes⟩
    exact decodes

lemma once?_output_eq_some_iff {vs : List RawJson} {output : List String} :
    once? texts? (some []) vs = some output ↔ WritesOutput vs output := by
  constructor
  · intro h
    match vs with
    | [] =>
      cases h
      exact .absent
    | [v] =>
      cases v with
      | array vs => exact .given ((mapM_eq_some_iff text?_eq_some_iff).1 h)
      | _ => cases h
    | _ :: _ :: _ => cases h
  · intro writes
    cases writes with
    | absent => rfl
    | given spell => exact (mapM_eq_some_iff text?_eq_some_iff).2 spell

lemma once?_error_eq_some_iff {vs : List RawJson} {error : Option String} :
    once? textOrNull? (some none) vs = some error ↔ WritesError vs error := by
  constructor
  · intro h
    match vs with
    | [] =>
      cases h
      exact .absent
    | [v] =>
      cases v with
      | null =>
        cases h
        exact .null
      | string ps =>
        obtain ⟨text, spells, rfl⟩ := Option.map_eq_some_iff.1 h
        exact .given (text?_eq_some_iff.1 spells)
      | _ => cases h
    | _ :: _ :: _ => cases h
  · intro writes
    cases writes with
    | absent | null => rfl
    | given spells =>
      cases spells with
      | string decodes => exact Option.map_eq_some_iff.2 ⟨_, decodes, rfl⟩

lemma once?_eq_some_iff {α : Type} {read : RawJson → Option α} {vs : List RawJson} {x : α} :
    once? read none vs = some x ↔ ∃ v, vs = [v] ∧ read v = some x := by
  match vs with
  | [] | _ :: _ :: _ => simp [once?]
  | [v] => simp [once?]

/-! ## Fixtures -/

/-- In a list, what comes behind the program is given or not just as in an object. -/
lemma ofRaw?_list {depth : Nat} {v p : RawJson} {rest : List RawJson} :
    ofRaw? depth (.array (v :: p :: rest)) = (text? v).bind fun name =>
      (Program.ofRaw? (depth - 1) p).bind fun program =>
        (once? texts? (some []) (rest.take 1)).bind fun output =>
          (once? textOrNull? (some none) (rest.drop 1)).bind fun error =>
            some ⟨name, program, output, error⟩ := by
  match rest with
  | [] | [_] | [_, _] => rfl
  | output :: _ :: _ :: _ =>
    rw [ofRaw?]
    cases text? v with
    | none => rfl
    | some name =>
      cases Program.ofRaw? (depth - 1) p with
      | none => rfl
      | some program => exact (Option.bind_fun_none (texts? output)).symm

/-- A value in the list of a file reads as the fixture that it writes. -/
lemma ofRaw?_eq_some_iff {v : RawJson} {f : Fixture} :
    ofRaw? (RawJson.depthLimit - 1) v = some f ↔ Writes v f := by
  constructor
  · intro h
    match v with
    | .object fs =>
      rw [ofRaw?] at h
      simp only [Option.bind_eq_bind, Option.bind_eq_some_iff, once?_eq_some_iff, text?_eq_some_iff,
        once?_output_eq_some_iff, once?_error_eq_some_iff] at h
      obtain ⟨fields, names, name, ⟨v, called, spells⟩, program, ⟨p, holds, reads⟩, output, prints,
        error, fails, heq⟩ := h
      cases heq
      exact .object names called spells holds reads prints fails
    | .array (v :: p :: rest) =>
      rw [ofRaw?_list] at h
      simp only [Option.bind_eq_some_iff, text?_eq_some_iff, once?_output_eq_some_iff,
        once?_error_eq_some_iff] at h
      obtain ⟨name, spells, program, reads, output, prints, error, fails, heq⟩ := h
      cases heq
      exact .list spells reads prints fails
    | .array [] | .array [_] | .null | .bool _ | .number _ | .string _ => cases h
  · intro writes
    cases writes with
    | object names called spells holds reads prints fails =>
      rw [ofRaw?]
      simp only [Option.bind_eq_bind, Option.bind_eq_some_iff, once?_eq_some_iff, text?_eq_some_iff,
        once?_output_eq_some_iff, once?_error_eq_some_iff]
      exact ⟨_, names, _, ⟨_, called, spells⟩, _, ⟨_, holds, reads⟩, _, prints, _, fails, rfl⟩
    | list spells reads prints fails =>
      rw [ofRaw?_list]
      simp only [Option.bind_eq_some_iff, text?_eq_some_iff, once?_output_eq_some_iff,
        once?_error_eq_some_iff]
      exact ⟨_, spells, _, reads, _, prints, _, fails, rfl⟩

/-- The fixtures of a text are those that it writes. -/
theorem ofText?_eq_some_iff {text : String} {fixtures : List Fixture} :
    ofText? text = some fixtures ↔ Lists text fixtures := by
  unfold ofText? Lists
  split
  next vs h =>
    rw [mapM_eq_some_iff ofRaw?_eq_some_iff]
    constructor
    · intro all
      exact ⟨vs, h, all⟩
    · rintro ⟨vs', h', all⟩
      rw [h] at h'
      cases h'
      exact all
  next other =>
    constructor
    · intro h
      cases h
    · rintro ⟨vs, h, -⟩
      exact absurd h (other vs)

end Fixture

end Playback
