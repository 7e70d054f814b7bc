import Playback.Proofs.Forest
import Playback.Proofs.Locality
import Playback.Proofs.Printing
import Playback.Proofs.Stages

/-!
# Nesting

How deep a trace is nested follows from how deep the document of its program is. A frame stands on
the level of the statement that yields it or further out. It needs one level for itself; a slice in
it needs one more, and is yielded by a substring expression only, which stands one level inside its
statement; a definition needs one more for the list of its frames, as the function does for its
statements.

Main statement: the frames of a program fit in the levels that its document leaves to its statements
(`Program.within_of_traceText`).
-/

namespace Playback

/-! ## Slices -/

/-- The bounds are whole numbers of 64 bits. -/
structure Slice.IsBounded (s : Slice) : Prop where
  first : Binary.leastInt ≤ s.first ∧ s.first ≤ Binary.greatestInt
  last : Binary.leastInt ≤ s.last ∧ s.last ≤ Binary.greatestInt

lemma Binary.truncate_bounded (x : Float) :
    leastInt ≤ truncate x ∧ truncate x ≤ greatestInt := by
  have order : leastInt ≤ 0 ∧ 0 ≤ greatestInt := by decide
  unfold truncate
  split
  · exact order
  split
  · omega
  split <;> omega

lemma Value.bounded_of_requireIndex {v : Value} {i : Int} (h : v.requireIndex = .ok i) :
    Binary.leastInt ≤ i ∧ i ≤ Binary.greatestInt := by
  obtain ⟨x, -, rfl⟩ := map_eq_ok_iff.1 h
  exact Binary.truncate_bounded x

lemma Value.primitive_ne_slice (v : Value) (s : Slice) : v.primitive ≠ .slice s := by
  cases v <;> exact nofun

/-- No operator yields a slice. -/
lemma Value.binary_ne_slice {op : Operator} {a b : Value} {s : Slice} :
    binary op a b ≠ .ok (.slice s) := by
  intro h
  have number {op : Operator} {f : Float → Float → Float} (h : arithmetic op f a b = .ok (.slice s)) :
      False := by
    obtain ⟨xy, -, heq⟩ := map_eq_ok_iff.1 h
    cases heq
  have truth {op : Operator} {test : Ordering → Bool} (h : compare op test a b = .ok (.slice s)) :
      False := by
    obtain ⟨o, -, heq⟩ := map_eq_ok_iff.1 h
    cases heq
  cases op with
  | add =>
    rw [binary, add] at h
    split at h
    · cases h
    · exact number h
  | sub | mul => exact number h
  | div =>
    obtain ⟨xy, -, h⟩ := bind_eq_ok_iff.1 h
    dsimp only at h
    split at h <;> cases h
  | less | lessEq | greater | greaterEq => exact truth h
  | equal | notEqual | and | or | not => cases h

/-- Only a substring expression yields a slice, and its bounds are of 64 bits. -/
lemma Node.isBounded_of_evaluate {n : Node} {store : Store} {s : Slice}
    (h : n.evaluate store = .ok (.slice s)) :
    s.IsBounded ∧ ∃ line source first last, n = .substring line source first last := by
  cases n with
  | identifier line name =>
    obtain ⟨v, -, heq⟩ := map_eq_ok_iff.1 h
    exact absurd heq (v.primitive_ne_slice s)
  | length line source =>
    obtain ⟨v, -, heq⟩ := map_eq_ok_iff.1 h
    cases heq
  | substring line source first last =>
    obtain ⟨v, -, h⟩ := bind_eq_ok_iff.1 h
    obtain ⟨a, -, h⟩ := bind_eq_ok_iff.1 h
    obtain ⟨i, hi, h⟩ := bind_eq_ok_iff.1 h
    obtain ⟨b, -, h⟩ := bind_eq_ok_iff.1 h
    obtain ⟨j, hj, h⟩ := bind_eq_ok_iff.1 h
    rw [Value.cut] at h
    split at h
    · cases h
    · cases h
      exact ⟨⟨Value.bounded_of_requireIndex hi, Value.bounded_of_requireIndex hj⟩, _, _, _, _, rfl⟩
  | expression line left op right =>
    exfalso
    cases unary : op.isUnary with
    | true =>
      obtain rfl : op = .not := eq_of_beq unary
      have no {operand : Node} (h : (operand.evaluate store).map Value.negation = .ok (.slice s)) :
          False := by
        obtain ⟨v, -, heq⟩ := map_eq_ok_iff.1 h
        cases heq
      cases right with
      | some operand => exact no (evaluate_not_right store line left operand ▸ h)
      | none =>
        cases left with
        | some operand => exact no h
        | none => cases h
    | false =>
      have noLeft : (expression line none op right).evaluate store =
          .error (.unsupported Tag.expression.name) := by
        cases op with
        | not => cases unary
        | _ => cases right <;> rfl
      have noRight (l : Node) : (expression line (some l) op none).evaluate store =
          .error (.unsupported Tag.expression.name) := by
        cases op with
        | not => cases unary
        | _ => rfl
      cases left with
      | none =>
        rw [noLeft] at h
        cases h
      | some l =>
        cases right with
        | none =>
          rw [noRight] at h
          cases h
        | some r =>
          rw [evaluate_binary store line unary] at h
          obtain ⟨a, -, h⟩ := bind_eq_ok_iff.1 h
          obtain ⟨b, -, h⟩ := bind_eq_ok_iff.1 h
          exact Value.binary_ne_slice h
  | _ => cases h

/-! ## Levels of frames -/

/-- The value takes no more levels in a document, and a slice has bounds of 64 bits. -/
def Value.Within (depth : Nat) : Value → Prop
  | slice s => 0 < depth ∧ s.IsBounded
  | _ => True

/-- The fields of the action take no more levels in a document. -/
def Action.Within (depth : Nat) : Action → Prop
  | set _ _ value | print _ _ value => value.Within depth
  | _ => True

/-- The frame takes no more levels in a document. -/
inductive Frame.Within {τ : Type} : Nat → Frame τ → Prop where
  | plain {depth line stamp action} (fields : action.Within depth) :
      Within (depth + 1) (.plain line stamp action)
  | define {depth line stamp name params body} (all : ∀ f ∈ body, Within depth f) :
      Within (depth + 2) (.define line stamp name params body)

lemma Value.primitive_within (v : Value) (depth : Nat) : v.primitive.Within depth := by
  cases v <;> trivial

/-- Times take no levels. -/
lemma Frame.within_stampAll {σ : Type} {fs : List (Frame σ)} (clock : Clock) {depth : Nat}
    (h : ∀ f ∈ fs, f.Within depth) : ∀ f ∈ stampAll clock fs, f.Within depth := by
  induction fs using forest_induction generalizing clock depth with
  | nil => exact nofun
  | plain line stamp action fs ih =>
    obtain ⟨head, tail⟩ := List.forall_mem_cons.1 h
    rw [stampAll_plain]
    refine List.forall_mem_cons.2 ⟨?_, ih _ tail⟩
    cases head with
    | plain fields => exact .plain fields
  | define line stamp name params body fs ihbody ih =>
    obtain ⟨head, tail⟩ := List.forall_mem_cons.1 h
    rw [stampAll_define]
    refine List.forall_mem_cons.2 ⟨?_, ih _ tail⟩
    cases head with
    | define all => exact .define (ihbody _ all)

/-! ## Levels of statements -/

namespace Node

/-- The node is read from a value that takes no more levels. -/
def WrittenWithin (depth : Nat) (n : Node) : Prop :=
  ∃ v, Json.Fits depth v ∧ ofJson v = n

lemma WrittenWithin.mono {depth more : Nat} {n : Node} (h : WrittenWithin depth n)
    (le : depth ≤ more) : WrittenWithin more n := by
  obtain ⟨v, fits, reads⟩ := h
  exact ⟨v, fits.mono le, reads⟩

/-- The nodes that are read from objects only. -/
def needsObject : Node → Bool
  | number .. | string .. | boolean .. | unsupported .. => false
  | _ => true

lemma WrittenWithin.recognised {depth : Nat} {n : Node} (h : WrittenWithin depth n)
    (object : n.needsObject = true) : ∃ d fields tag, depth = d + 1 ∧
      (∀ f ∈ fields, Json.Fits d f.2) ∧ Recognised fields tag n := by
  obtain ⟨v, fits, rfl⟩ := h
  cases v with
  | object fields =>
    cases fits with
    | object all =>
      cases recognised : ofObject? fields with
      | none =>
        rw [ofJson_object, recognised] at object
        cases object
      | some n =>
        obtain ⟨tag, rule⟩ := recognised_of_ofObject? recognised
        exact ⟨_, fields, tag, rfl, all, rule.ofJson_eq ▸ rule⟩
  | _ => cases object

variable {depth : Nat} {fields : List (String × Json)} {key : String}

/-- The elements of a list take a level less than the fields of the object that holds it. -/
lemma writtenWithin_elements (all : ∀ f ∈ fields, Json.Fits depth f.2) {vs : List Json}
    (holds : Json.get? key fields = some (.array vs)) :
    ∃ d, depth = d + 1 ∧ ∀ n ∈ vs.map ofJson, WrittenWithin d n := by
  cases all _ (Json.mem_of_get? holds) with
  | array elements =>
    refine ⟨_, rfl, fun n mem => ?_⟩
    obtain ⟨v, hv, rfl⟩ := List.mem_map.1 mem
    exact ⟨v, elements v hv, rfl⟩

lemma writtenWithin_list (all : ∀ f ∈ fields, Json.Fits depth f.2) {vs : List Json}
    (holds : Json.get? key fields = some (.array vs)) :
    ∀ n ∈ vs.map ofJson, WrittenWithin (depth + 1) n := by
  obtain ⟨d, rfl, elements⟩ := writtenWithin_elements all holds
  exact fun n mem => (elements n mem).mono (by omega)

variable {line : Option UInt32}

/-- A slice that is set is one level inside its statement. -/
lemma WrittenWithin.declaration {name : String} {value : Node}
    (h : WrittenWithin depth (.declaration line name value)) :
    ∃ d, depth = d + 1 ∧ (value.needsObject = true → 0 < d) := by
  obtain ⟨d, fields, tag, rfl, all, rule⟩ := h.recognised rfl
  refine ⟨d, rfl, fun object => ?_⟩
  cases rule with
  | declaration head named holds =>
    have inner : WrittenWithin d _ := ⟨_, all _ (Json.mem_of_get? holds), rfl⟩
    obtain ⟨d', -, -, rfl, -⟩ := inner.recognised object
    exact Nat.succ_pos d'

lemma WrittenWithin.chosen {condition : Node} {consequent : List Node}
    {alternate : Option (List Node)}
    (h : WrittenWithin depth (.branch line condition consequent alternate)) (result : Bool) :
    ∃ d, depth = d + 1 ∧ ∀ n ∈ chosen result consequent alternate, n.WrittenWithin depth := by
  obtain ⟨d, fields, tag, rfl, all, rule⟩ := h.recognised rfl
  refine ⟨d, rfl, ?_⟩
  cases rule with
  | branch head decides holds missing =>
    cases result with
    | true => exact writtenWithin_list all holds
    | false => exact nofun
  | branchElse head decides holds given =>
    cases result with
    | true => exact writtenWithin_list all holds
    | false => exact writtenWithin_list all given

lemma WrittenWithin.repeated {condition : Node} {body : List Node}
    (h : WrittenWithin depth (.loopUntil line condition body)) :
    ∃ d, depth = d + 1 ∧ ∀ n ∈ body, n.WrittenWithin depth := by
  obtain ⟨d, fields, tag, rfl, all, rule⟩ := h.recognised rfl
  cases rule with
  | loopUntil head decides holds => exact ⟨d, rfl, writtenWithin_list all holds⟩

lemma WrittenWithin.counted {counter : String} {first last : Node} {body : List Node}
    (h : WrittenWithin depth (.loopFromTo line counter first last body)) :
    ∃ d, depth = d + 1 ∧ ∀ n ∈ body, n.WrittenWithin depth := by
  obtain ⟨d, fields, tag, rfl, all, rule⟩ := h.recognised rfl
  cases rule with
  | loopFromTo head counts ranges spans holds => exact ⟨d, rfl, writtenWithin_list all holds⟩

/-- The body of a function is two levels inside, and so are the frames of its definition. -/
lemma WrittenWithin.body {name : String} {params : List String} {body : List Node}
    (h : WrittenWithin depth (.function line name params body)) :
    ∃ d, depth = d + 2 ∧ ∀ n ∈ body, n.WrittenWithin d := by
  obtain ⟨d, fields, tag, rfl, all, rule⟩ := h.recognised rfl
  cases rule with
  | function head named takes holds =>
    obtain ⟨d, rfl, elements⟩ := writtenWithin_elements all holds
    exact ⟨d, rfl, elements⟩

end Node

/-- Each statement of the code is read from a value that takes no more levels. -/
def Code.WrittenWithin (depth : Nat) : Code → Prop
  | statement n => n.WrittenWithin depth
  | block ns => ∀ n ∈ ns, n.WrittenWithin depth
  | rounds _ body _ => 0 < depth ∧ ∀ n ∈ body, n.WrittenWithin depth

section

variable {depth : Nat}

lemma Frame.within_closed {fs : List (Frame Unit)} {action : Action}
    (fields : action.Within depth) (h : ∀ f ∈ fs, f.Within (depth + 1)) :
    ∀ f ∈ closed fs action, f.Within (depth + 1) :=
  List.forall_mem_append.2 ⟨h, List.forall_mem_singleton.2 (.plain fields)⟩

lemma Guard.check_within (guard : Guard) (s : State) (result : Bool) :
    (guard.check s result).Within (depth + 1) :=
  .plain trivial

lemma Node.within_of_printed {n : Node} {store : Store} {action : Action}
    (prints : n.printed store = .ok action) : action.Within depth := by
  unfold printed at prints
  split at prints
  · split at prints
    · rename_i v _
      cases prints
      exact v.primitive_within depth
    · cases prints
      trivial
  · obtain ⟨v, -, rfl⟩ := map_eq_ok_iff.1 prints
    exact v.primitive_within depth

end

/-- The frames of a run take no more levels than the statements. -/
theorem Runs.within {budget code s r} (runs : Runs budget code s r) {depth : Nat}
    (written : code.WrittenWithin depth) : ∀ f ∈ r.frames, f.Within depth := by
  induction runs generalizing depth with
  | @declaration line name value s v evaluates =>
    obtain ⟨d, rfl, room⟩ := Node.WrittenWithin.declaration written
    refine List.forall_mem_singleton.2 (.plain ?_)
    cases v with
    | slice slice =>
      -- its expression is an object inside the statement, and leaves it the level it takes
      obtain ⟨bounded, _, _, _, _, rfl⟩ := Node.isBounded_of_evaluate evaluates
      exact ⟨room rfl, bounded⟩
    | _ => trivial
  | print prints =>
    obtain ⟨d, fields, tag, rfl, -⟩ := Node.WrittenWithin.recognised written rfl
    exact List.forall_mem_singleton.2 (.plain (Node.within_of_printed prints))
  | @branch line condition consequent alternate s result inner checks runs ih =>
    obtain ⟨d, rfl, chosen⟩ := Node.WrittenWithin.chosen written result
    exact Frame.within_closed trivial (List.forall_mem_cons.2 ⟨.plain trivial, ih chosen⟩)
  | loopUntil runs ih =>
    obtain ⟨d, rfl, body⟩ := Node.WrittenWithin.repeated written
    have rounds := ih ⟨Nat.succ_pos d, body⟩
    exact Frame.within_closed trivial (List.forall_mem_cons.2 ⟨.plain trivial, rounds⟩)
  | loopFromTo starts sets runs ih =>
    obtain ⟨d, rfl, body⟩ := Node.WrittenWithin.counted written
    subst sets
    have rounds := ih ⟨Nat.succ_pos d, body⟩
    refine Frame.within_closed trivial (List.forall_mem_cons.2 ⟨.plain trivial, ?_⟩)
    exact List.forall_mem_cons.2 ⟨.plain trivial, rounds⟩
  | function runs ih =>
    -- both the statements and the frames of a body stand in a list inside an object
    obtain ⟨d, rfl, body⟩ := Node.WrittenWithin.body written
    exact List.forall_mem_singleton.2 (.define (ih body))
  | ret =>
    obtain ⟨d, fields, tag, rfl, -⟩ := Node.WrittenWithin.recognised written rfl
    exact List.forall_mem_singleton.2 (.plain trivial)
  | nil => exact nofun
  | returned runs flow ih => exact ih (written _ (.head _))
  | next runs flow goes ih ihrest =>
    have first := ih (written _ (.head _))
    exact List.forall_mem_append.2 ⟨first, ihrest fun n mem => written n (.tail _ mem)⟩
  | @stop guard body left s checks =>
    obtain ⟨d, rfl⟩ := Nat.exists_eq_succ_of_ne_zero (Nat.ne_of_gt written.1)
    exact List.forall_mem_singleton.2 (guard.check_within s false)
  | @cut guard body left s round checks runs flow ih =>
    obtain ⟨d, rfl⟩ := Nat.exists_eq_succ_of_ne_zero (Nat.ne_of_gt written.1)
    exact List.forall_mem_cons.2 ⟨guard.check_within s true, ih written.2⟩
  | @again guard body left s round step rest checks runs flow advances goes ih ihrest =>
    obtain ⟨d, rfl⟩ := Nat.exists_eq_succ_of_ne_zero (Nat.ne_of_gt written.1)
    have advance : ∀ f ∈ step.frames, f.Within (d + 1) := by
      cases guard with
      | conditional line condition =>
        rw [Guard.advance_conditional advances]
        exact nofun
      | counting line counter last =>
        obtain ⟨x, -, rfl⟩ := Guard.advance_counting advances
        exact List.forall_mem_singleton.2 (.plain trivial)
    refine List.forall_mem_append.2 ⟨List.forall_mem_cons.2 ⟨guard.check_within s true, ?_⟩,
      ihrest written⟩
    exact List.forall_mem_append.2 ⟨ih written.2, advance⟩

namespace Program

/-- A document leaves all levels but two to its statements. -/
lemma writtenWithin_of_ofText? {text : String} {p : Program} (h : ofText? text = some p) :
    ∀ n ∈ p.statements, n.WrittenWithin (RawJson.depthLimit - 2) := by
  obtain ⟨raw, values, -, carries, rfl⟩ := ofText?_eq_some_iff.1 h
  have fits : ∀ v ∈ values, Json.Fits (RawJson.depthLimit - 2) v := by
    cases carries with
    | object _ _ decodes | list decodes => exact Json.fits_of_decodeAll? decodes
  intro n mem
  obtain ⟨v, hv, rfl⟩ := List.mem_map.1 mem
  exact ⟨v, fits v hv, rfl⟩

/-- The frames of a program fit in the levels that its document leaves to its statements. -/
theorem within_of_traceText {budget : Budget} {clock : Clock} {text : String} {t : Trace}
    (h : traceText budget clock text = .ok t) :
    ∀ f ∈ t.frames, f.Within (RawJson.depthLimit - 2) := by
  unfold traceText at h
  split at h
  next p read =>
    obtain ⟨r, runs, rfl⟩ := trace_eq_ok_iff.1 h
    exact Frame.within_stampAll clock (runs.within (writtenWithin_of_ofText? read))
  next => cases h

end Program

end Playback
