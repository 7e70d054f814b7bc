import Playback.Proofs.Conversion
import Playback.Proofs.Misplaced
import Playback.Proofs.Nesting

/-!
# Number literals

Every numeral in a document is in range, and every node of a program is read from a value in its
document, however deep it stands. So a number literal is the value of a numeral in range.

Main statement: all numbers in a program that a text writes are finite (`Program.isFinite_of_ofText?`).
-/

namespace Playback

/-- All numbers in the program are finite. -/
def Program.IsFinite (p : Program) : Prop :=
  ∀ line x, .number line x ∈ p.nodes → x.isFinite = true

namespace Node

/-! ## Nodes inside nodes -/

lemma mem_nodesOfOptionOnto_iff {n : Option Node} {m : Node} {done : List Node} :
    m ∈ nodesOfOptionOnto done n ↔ (∃ k, n = some k ∧ m ∈ k.nodes) ∨ m ∈ done := by
  cases n with
  | none => simp [nodesOfOptionOnto]
  | some k => simp

/-- A node inside another one is inside one of its parts, unless it is inside what is returned. -/
lemma exists_part_of_mem_nodes {n m : Node} (mem : m ∈ n.nodes) :
    m = n ∨ (∃ role k, n.Part role k ∧ m ∈ k.nodes) ∨ ∃ line v, n = .ret line v ∧ m ∈ v.nodes := by
  change m ∈ nodesOnto [] n at mem
  have part {k : Node} {role : Role} (h : n.Part role k) (inside : m ∈ k.nodes) :
      m = n ∨ (∃ role k, n.Part role k ∧ m ∈ k.nodes) ∨ ∃ line v, n = .ret line v ∧ m ∈ v.nodes :=
    .inr (.inl ⟨role, k, h, inside⟩)
  cases n with
  | declaration line name value =>
    simp only [nodesOnto, mem_nodesOnto, List.mem_singleton] at mem
    rcases mem with inside | rfl
    · exact part .declared inside
    · exact .inl rfl
  | print line value =>
    simp only [nodesOnto, mem_nodesOnto, List.mem_singleton] at mem
    rcases mem with inside | rfl
    · exact part .printed inside
    · exact .inl rfl
  | branch line condition consequent alternate =>
    cases alternate with
    | none =>
      simp only [nodesOnto, mem_nodesOnto, mem_nodesOfOnto, List.mem_singleton] at mem
      rcases mem with ⟨k, mem, inside⟩ | inside | rfl
      · exact part (.consequent mem) inside
      · exact part .condition inside
      · exact .inl rfl
    | some alternate =>
      simp only [nodesOnto, mem_nodesOnto, mem_nodesOfOnto, List.mem_singleton] at mem
      rcases mem with ⟨k, mem, inside⟩ | ⟨k, mem, inside⟩ | inside | rfl
      · exact part (.alternate mem) inside
      · exact part (.consequent mem) inside
      · exact part .condition inside
      · exact .inl rfl
  | loopUntil line condition body =>
    simp only [nodesOnto, mem_nodesOnto, mem_nodesOfOnto, List.mem_singleton] at mem
    rcases mem with ⟨k, mem, inside⟩ | inside | rfl
    · exact part (.repeated mem) inside
    · exact part .goal inside
    · exact .inl rfl
  | loopFromTo line counter first last body =>
    simp only [nodesOnto, mem_nodesOnto, mem_nodesOfOnto, List.mem_singleton] at mem
    rcases mem with ⟨k, mem, inside⟩ | inside | inside | rfl
    · exact part (.counted mem) inside
    · exact part .stop inside
    · exact part .start inside
    · exact .inl rfl
  | function line name params body =>
    simp only [nodesOnto, mem_nodesOfOnto, List.mem_singleton] at mem
    rcases mem with ⟨k, mem, inside⟩ | rfl
    · exact part (.body mem) inside
    · exact .inl rfl
  | ret line value =>
    simp only [nodesOnto, mem_nodesOnto, List.mem_singleton] at mem
    rcases mem with inside | rfl
    · exact .inr (.inr ⟨line, value, rfl, inside⟩)
    · exact .inl rfl
  | expression line left op right =>
    rw [nodesOnto, mem_nodesOfOptionOnto_iff, mem_nodesOfOptionOnto_iff, List.mem_singleton] at mem
    rcases mem with ⟨k, rfl, inside⟩ | ⟨k, rfl, inside⟩ | rfl
    · exact part .right inside
    · exact part .left inside
    · exact .inl rfl
  | substring line source first last =>
    simp only [nodesOnto, mem_nodesOnto, List.mem_singleton] at mem
    rcases mem with inside | inside | rfl
    · exact part .last inside
    · exact part .first inside
    · exact .inl rfl
  | _ => exact .inl (List.mem_singleton.1 mem)

/-! ## Written nodes -/

variable {depth : Nat} {fields : List (String × Json)} {key : String}

lemma writtenWithin_child (all : ∀ f ∈ fields, Json.Fits depth f.2) {v : Json}
    (holds : Json.get? key fields = some v) : (ofJson v).WrittenWithin depth :=
  ⟨v, all _ (Json.mem_of_get? holds), rfl⟩

lemma writtenWithin_operand (all : ∀ f ∈ fields, Json.Fits depth f.2) {n : Node}
    (holds : operand? key fields = some n) : n.WrittenWithin depth := by
  unfold operand? at holds
  split at holds
  · obtain ⟨v, found, rfl⟩ := child?_eq_some_iff.1 holds
    exact writtenWithin_child all found
  · cases holds

lemma writtenWithin_inner (all : ∀ f ∈ fields, Json.Fits depth f.2) {vs : List Json}
    (holds : Json.get? key fields = some (.array vs)) {n : Node} (mem : n ∈ vs.map ofJson) :
    n.WrittenWithin depth := by
  obtain ⟨d, rfl, elements⟩ := writtenWithin_elements all holds
  exact (elements n mem).mono (Nat.le_succ d)

/-- The bounds of a loop are inside its range. -/
lemma writtenWithin_span (all : ∀ f ∈ fields, Json.Fits depth f.2) {range first last : Json}
    (holds : Json.get? key fields = some range) (spans : Spans range first last) :
    (ofJson first).WrittenWithin depth ∧ (ofJson last).WrittenWithin depth := by
  have fits : Json.Fits depth range := all _ (Json.mem_of_get? holds)
  cases spans with
  | list =>
    cases fits with
    | @array d _ elements =>
      have inner {v : Json} (mem : v ∈ [first, last]) : (ofJson v).WrittenWithin (d + 1) :=
        ⟨v, (elements v mem).mono (Nat.le_succ d), rfl⟩
      exact ⟨inner (.head _), inner (.tail _ (.head _))⟩
  | object start stop =>
    cases fits with
    | @object d _ bounds =>
      exact ⟨(writtenWithin_child bounds start).mono (Nat.le_succ d),
        (writtenWithin_child bounds stop).mono (Nat.le_succ d)⟩

/-- A part of a node is written in a level less. -/
lemma WrittenWithin.part {n m : Node} {role : Role} (h : n.WrittenWithin depth)
    (part : n.Part role m) : ∃ d, depth = d + 1 ∧ m.WrittenWithin d := by
  obtain ⟨d, fields, tag, rfl, all, rule⟩ := h.recognised (by cases part <;> rfl)
  refine ⟨d, rfl, ?_⟩
  cases rule with
  | declaration head named value | print head value =>
    cases part
    exact writtenWithin_child all value
  | branch head condition consequent =>
    cases part with
    | condition => exact writtenWithin_child all condition
    | consequent mem => exact writtenWithin_inner all consequent mem
  | branchElse head condition consequent alternate =>
    cases part with
    | condition => exact writtenWithin_child all condition
    | consequent mem => exact writtenWithin_inner all consequent mem
    | alternate mem => exact writtenWithin_inner all alternate mem
  | loopUntil head condition body =>
    cases part with
    | goal => exact writtenWithin_child all condition
    | repeated mem => exact writtenWithin_inner all body mem
  | loopFromTo head counts ranges spans body =>
    cases part with
    | start => exact (writtenWithin_span all ranges spans).1
    | stop => exact (writtenWithin_span all ranges spans).2
    | counted mem => exact writtenWithin_inner all body mem
  | function head named takes body =>
    cases part with
    | body mem => exact writtenWithin_inner all body mem
  | expression head applies =>
    generalize hleft : operand? "left" fields = left at part
    generalize hright : operand? "right" fields = right at part
    cases part with
    | left => exact writtenWithin_operand all hleft
    | right => exact writtenWithin_operand all hright
  | substring head reads start stop =>
    cases part with
    | first => exact writtenWithin_child all start
    | last => exact writtenWithin_child all stop
  | _ => cases part

/-- So is what is returned. -/
lemma WrittenWithin.returned {line : Option UInt32} {value : Node}
    (h : (ret line value).WrittenWithin depth) : ∃ d, depth = d + 1 ∧ value.WrittenWithin d := by
  obtain ⟨d, fields, tag, rfl, all, rule⟩ := h.recognised rfl
  cases rule with
  | ret head value => exact ⟨d, rfl, writtenWithin_child all value⟩

/-- A node inside a written one is written itself. -/
lemma WrittenWithin.of_mem_nodes {n m : Node} (h : n.WrittenWithin depth) (mem : m ∈ n.nodes) :
    ∃ d, m.WrittenWithin d := by
  induction depth generalizing n with
  | zero =>
    rcases exists_part_of_mem_nodes mem with rfl | ⟨role, k, part, -⟩ | ⟨line, v, rfl, -⟩
    · exact ⟨0, h⟩
    · obtain ⟨d, impossible, -⟩ := h.part part
      cases impossible
    · obtain ⟨d, impossible, -⟩ := h.returned
      cases impossible
  | succ depth ih =>
    rcases exists_part_of_mem_nodes mem with rfl | ⟨role, k, part, inside⟩ | ⟨line, v, rfl, inside⟩
    · exact ⟨_, h⟩
    · obtain ⟨d, same, written⟩ := h.part part
      cases same
      exact ih written inside
    · obtain ⟨d, same, written⟩ := h.returned
      cases same
      exact ih written inside

/-- A number is the value of a numeral that is not refused. -/
lemma WrittenWithin.isFinite {line : Option UInt32} {x : Float}
    (h : (number line x).WrittenWithin depth) : x.isFinite = true := by
  obtain ⟨v, fits, reads⟩ := h
  cases fits with
  | number range =>
    cases reads
    exact Numeral.isFinite_jsonFloat range
  | @object d fields all =>
    cases recognised : ofObject? fields with
    | none =>
      rw [ofJson_object, recognised] at reads
      cases reads
    | some n =>
      obtain ⟨tag, rule⟩ := recognised_of_ofObject? recognised
      rw [rule.ofJson_eq] at reads
      subst reads
      cases rule with
      | number head value =>
        unfold numberField? at value
        split at value
        next n found =>
          cases value
          cases all _ (Json.mem_of_get? found) with
          | number range => exact Numeral.isFinite_jsonFloat range
        next => cases value
  | _ => cases reads

end Node

/-- All numbers in a program that a text writes are finite. -/
theorem Program.isFinite_of_ofText? {text : String} {p : Program} (h : ofText? text = some p) :
    p.IsFinite := by
  intro line x mem
  rw [Program.nodes, List.mem_reverse, Node.mem_nodesOfOnto] at mem
  rcases mem with ⟨n, statement, inside⟩ | none
  · obtain ⟨d, written⟩ := (writtenWithin_of_ofText? h n statement).of_mem_nodes inside
    exact written.isFinite
  · cases none

end Playback
