import Playback.Node.Reader
import Mathlib.Tactic.Lemma
import Mathlib.Logic.Basic

/-!
# Recognised objects

`Node.Recognised` says by rules which objects are recognised as nodes: there is one rule for each
tag, two for a branch, and each names the fields that are looked up and what they must hold. Where a
field holds a child, any value will do, and the child is its reading.

Main statements: an object that the rules recognise reads as the node that they give
(`Node.Recognised.ofJson_eq`), and no other object is recognised (`Node.recognised_of_ofObject?`).
-/

namespace Playback

namespace Node

variable {fields : List (String × Json)}

/-! ## Fields of children -/

lemma ofJsons_eq_map (vs : List Json) : ofJsons vs = vs.map ofJson := by
  induction vs with
  | nil => rfl
  | cons v vs ih => rw [ofJsons, ih, List.map_cons]

lemma child?_eq (key : String) (fields : List (String × Json)) :
    child? key fields = (Json.get? key fields).map ofJson := by
  induction fields with
  | nil => rfl
  | cons field rest ih =>
    obtain ⟨k, v⟩ := field
    rw [child?, Json.get?, ih]
    split <;> rfl

lemma child?_eq_some_iff {key : String} {n : Node} :
    child? key fields = some n ↔ ∃ v, Json.get? key fields = some v ∧ n = ofJson v := by
  rw [child?_eq, Option.map_eq_some_iff]
  exact exists_congr fun v => and_congr_right' eq_comm

lemma children?_eq_some_iff {key : String} {ns : List Node} :
    children? key fields = some ns ↔
      ∃ vs, Json.get? key fields = some (.array vs) ∧ ns = vs.map ofJson := by
  induction fields with
  | nil => simp [children?, Json.get?]
  | cons field rest ih =>
    obtain ⟨k, v⟩ := field
    by_cases h : k = key
    · cases v <;> simp [children?, Json.get?, h, ofJsons_eq_map, eq_comm]
    · cases v <;> simp [children?, Json.get?, h, ih]

/-- The two bounds of a loop, as a list or as an object. -/
inductive Spans : Json → Json → Json → Prop where
  | list {first last} : Spans (.array [first, last]) first last
  | object {bounds first last} (start : Json.get? "start" bounds = some first)
      (stop : Json.get? "end" bounds = some last) : Spans (.object bounds) first last

lemma bounds?_head {key : String} {v : Json} {rest : List (String × Json)} {first last : Node} :
    bounds? key ((key, v) :: rest) = some (first, last) ↔
      ∃ a b, Spans v a b ∧ first = ofJson a ∧ last = ofJson b := by
  constructor
  · intro h
    cases v with
    | array vs =>
      match vs with
      | [a, b] =>
        simp [bounds?] at h
        exact ⟨a, b, .list, h.1.symm, h.2.symm⟩
      | [] | [_] | _ :: _ :: _ :: _ => simp [bounds?] at h
    | object bounds =>
      simp only [bounds?, child?_eq, if_true] at h
      cases start : Json.get? "start" bounds with
      | none => simp [start] at h
      | some a =>
        cases stop : Json.get? "end" bounds with
        | none => simp [start, stop] at h
        | some b =>
          simp [start, stop] at h
          exact ⟨a, b, .object start stop, h.1.symm, h.2.symm⟩
    | _ => simp [bounds?] at h
  · rintro ⟨a, b, spans, rfl, rfl⟩
    cases spans with
    | list => simp [bounds?]
    | object start stop => simp [bounds?, child?_eq, start, stop]

lemma bounds?_eq_some_iff {key : String} {first last : Node} :
    bounds? key fields = some (first, last) ↔
      ∃ v a b, Json.get? key fields = some v ∧ Spans v a b ∧ first = ofJson a ∧ last = ofJson b := by
  induction fields with
  | nil => simp [bounds?, Json.get?]
  | cons field rest ih =>
    obtain ⟨k, v⟩ := field
    by_cases h : k = key
    · subst h
      simp [bounds?_head, Json.get?]
    · have behind : bounds? key ((k, v) :: rest) = bounds? key rest := by
        rw [bounds?.eq_def]
        exact if_neg h
      rw [behind, Json.get?, if_neg h]
      exact ih

/-! ## Lines -/

lemma natural?_eq_some_iff {n : Numeral} {k : Nat} : n.natural? = some k ↔ n = .ofInt k := by
  have hofInt : Numeral.ofInt k = ⟨false, k, 0, none⟩ := by
    simp [Numeral.ofInt]
  rw [hofInt, Numeral.natural?]
  obtain ⟨negative, mantissa, places, exponent⟩ := n
  cases negative <;> cases exponent <;> by_cases h : places = 0 <;> simp [h]

lemma lineNumber?_eq_some_iff {v : Json} {l : UInt32} :
    lineNumber? v = some l ↔ v = Json.ofInt l.toNat := by
  constructor
  · intro h
    cases v with
    | number n =>
      rw [lineNumber?] at h
      split at h
      · next k natural =>
        split at h
        · next small =>
          cases h
          rw [Json.ofInt, UInt32.toNat_ofNat_of_lt' small, natural?_eq_some_iff.1 natural]
        · cases h
      · cases h
    | _ => cases h
  · rintro rfl
    have natural : (Numeral.ofInt l.toNat).natural? = some l.toNat := natural?_eq_some_iff.2 rfl
    rw [Json.ofInt, lineNumber?, natural]
    dsimp only
    rw [if_pos l.toNat_lt, UInt32.ofNat_toNat]

/-! ## Recognition -/

/-- The line and the tag of an object. -/
structure Headed (fields : List (String × Json)) (tag : Tag) (line : Option UInt32) : Prop where
  line : lineField? fields = some line
  tag : tagField? fields = some tag

/-- The operand in a field that may be absent or hold nothing. -/
def operand? (key : String) (fields : List (String × Json)) : Option Node :=
  if isGiven key fields then child? key fields else none

lemma operand?_of_get? {key : String} {w : Json} (h : Json.get? key fields = some w)
    (given : w ≠ .null) : operand? key fields = some (ofJson w) := by
  have hgiven : isGiven key fields = true := by
    rw [isGiven, h]
    cases w <;> first | rfl | exact absurd rfl given
  rw [operand?, if_pos hgiven, child?_eq, h, Option.map_some]

/-- The object has the fields that its tag needs, and reads as the node. -/
inductive Recognised (fields : List (String × Json)) : Tag → Node → Prop where
  | declaration {line name v} (head : Headed fields .declaration line)
      (named : textField? "name" fields = some name) (value : Json.get? "value" fields = some v) :
      Recognised fields .declaration (.declaration line name (ofJson v))
  | print {line v} (head : Headed fields .print line) (value : Json.get? "value" fields = some v) :
      Recognised fields .print (.print line (ofJson v))
  | branch {line v vs} (head : Headed fields .branch line)
      (condition : Json.get? "condition" fields = some v)
      (consequent : Json.get? "consequent" fields = some (.array vs))
      (alternate : isGiven "alternate" fields = false) :
      Recognised fields .branch (.branch line (ofJson v) (vs.map ofJson) none)
  | branchElse {line v vs ws} (head : Headed fields .branch line)
      (condition : Json.get? "condition" fields = some v)
      (consequent : Json.get? "consequent" fields = some (.array vs))
      (alternate : Json.get? "alternate" fields = some (.array ws)) :
      Recognised fields .branch
        (.branch line (ofJson v) (vs.map ofJson) (some (ws.map ofJson)))
  | loopUntil {line v vs} (head : Headed fields .loopUntil line)
      (condition : Json.get? "condition" fields = some v)
      (body : Json.get? "body" fields = some (.array vs)) :
      Recognised fields .loopUntil (.loopUntil line (ofJson v) (vs.map ofJson))
  | loopFromTo {line counter range first last vs} (head : Headed fields .loopFromTo line)
      (counts : textField? "loopVariable" fields = some counter)
      (ranges : Json.get? "range" fields = some range) (spans : Spans range first last)
      (body : Json.get? "body" fields = some (.array vs)) :
      Recognised fields .loopFromTo
        (.loopFromTo line counter (ofJson first) (ofJson last) (vs.map ofJson))
  | function {line name params vs} (head : Headed fields .function line)
      (named : textField? "name" fields = some name)
      (takes : textsField? "params" fields = some params)
      (body : Json.get? "body" fields = some (.array vs)) :
      Recognised fields .function (.function line name params (vs.map ofJson))
  | ret {line v} (head : Headed fields .ret line) (value : Json.get? "value" fields = some v) :
      Recognised fields .ret (.ret line (ofJson v))
  | expression {line op} (head : Headed fields .expression line)
      (applies : operatorField? fields = some op) :
      Recognised fields .expression
        (.expression line (operand? "left" fields) op (operand? "right" fields))
  | identifier {line name} (head : Headed fields .identifier line)
      (named : identifierField? fields = some name) :
      Recognised fields .identifier (.identifier line name)
  | number {line x} (head : Headed fields .number line)
      (value : numberField? "value" fields = some x) : Recognised fields .number (.number line x)
  | string {line s} (head : Headed fields .string line)
      (value : textField? "value" fields = some s) : Recognised fields .string (.string line s)
  | boolean {line b} (head : Headed fields .boolean line)
      (value : boolField? "value" fields = some b) : Recognised fields .boolean (.boolean line b)
  | length {line source} (head : Headed fields .length line)
      (reads : textField? "source" fields = some source) :
      Recognised fields .length (.length line source)
  | substring {line source v w} (head : Headed fields .substring line)
      (reads : textField? "string" fields = some source)
      (start : Json.get? "start" fields = some v) (stop : Json.get? "end" fields = some w) :
      Recognised fields .substring (.substring line source (ofJson v) (ofJson w))

/-- The reading of an object that is recognised. -/
def ofObject? (fields : List (String × Json)) : Option Node :=
  ofFields? fields (fun key => child? key fields) (fun key => children? key fields)
    (fun key => bounds? key fields)

lemma ofJson_object (fields : List (String × Json)) :
    ofJson (.object fields) = (ofObject? fields).getD (unrecognised fields) := rfl

lemma Recognised.ofObject?_eq {tag : Tag} {n : Node} (h : Recognised fields tag n) :
    ofObject? fields = some n := by
  unfold ofObject? ofFields?
  cases h with
  | declaration head name value => simp [head.line, head.tag, child?_eq, name, value]
  | print head value => simp [head.line, head.tag, child?_eq, value]
  | branch head condition consequent alternate =>
    have h := children?_eq_some_iff.2 ⟨_, consequent, rfl⟩
    simp [head.line, head.tag, child?_eq, condition, h, alternate]
  | branchElse head condition consequent alternate =>
    have h := children?_eq_some_iff.2 ⟨_, consequent, rfl⟩
    have h' := children?_eq_some_iff.2 ⟨_, alternate, rfl⟩
    have given : isGiven "alternate" fields = true := by simp [isGiven, alternate]
    simp [head.line, head.tag, child?_eq, condition, h, h', given]
  | loopUntil head condition body =>
    have h := children?_eq_some_iff.2 ⟨_, body, rfl⟩
    simp [head.line, head.tag, child?_eq, condition, h]
  | loopFromTo head counter range spans body =>
    have h := children?_eq_some_iff.2 ⟨_, body, rfl⟩
    have h' := bounds?_eq_some_iff.2 ⟨_, _, _, range, spans, rfl, rfl⟩
    simp [head.line, head.tag, counter, h, h']
  | function head name params body =>
    have h := children?_eq_some_iff.2 ⟨_, body, rfl⟩
    simp [head.line, head.tag, name, params, h]
  | ret head value => simp [head.line, head.tag, child?_eq, value]
  | expression head op => simp [head.line, head.tag, op, operand?]
  | identifier head name => simp [head.line, head.tag, name]
  | number head value => simp [head.line, head.tag, value]
  | string head value => simp [head.line, head.tag, value]
  | boolean head value => simp [head.line, head.tag, value]
  | length head source => simp [head.line, head.tag, source]
  | substring head source start stop => simp [head.line, head.tag, child?_eq, source, start, stop]

/-- An object that the rules recognise reads as the node that they give. -/
theorem Recognised.ofJson_eq {tag : Tag} {n : Node} (h : Recognised fields tag n) :
    ofJson (.object fields) = n := by
  rw [ofJson_object, h.ofObject?_eq]
  rfl

/-- An object is recognised by the rules only. -/
theorem recognised_of_ofObject? {n : Node} (h : ofObject? fields = some n) :
    ∃ tag, Recognised fields tag n := by
  unfold ofObject? ofFields? at h
  obtain ⟨line, hline, h⟩ := Option.bind_eq_some_iff.1 h
  obtain ⟨tag, htag, h⟩ := Option.bind_eq_some_iff.1 h
  refine ⟨tag, ?_⟩
  have head : Headed fields tag line := ⟨hline, htag⟩
  cases tag with
  | declaration =>
    obtain ⟨name, hname, h⟩ := Option.bind_eq_some_iff.1 h
    obtain ⟨value, hvalue, h⟩ := Option.bind_eq_some_iff.1 h
    obtain ⟨v, hv, rfl⟩ := child?_eq_some_iff.1 hvalue
    cases h
    exact .declaration head hname hv
  | print =>
    obtain ⟨value, hvalue, h⟩ := Option.bind_eq_some_iff.1 h
    obtain ⟨v, hv, rfl⟩ := child?_eq_some_iff.1 hvalue
    cases h
    exact .print head hv
  | branch =>
    obtain ⟨condition, hcondition, h⟩ := Option.bind_eq_some_iff.1 h
    obtain ⟨consequent, hconsequent, h⟩ := Option.bind_eq_some_iff.1 h
    obtain ⟨v, hv, rfl⟩ := child?_eq_some_iff.1 hcondition
    obtain ⟨vs, hvs, rfl⟩ := children?_eq_some_iff.1 hconsequent
    split at h
    · obtain ⟨alternate, halternate, h⟩ := Option.bind_eq_some_iff.1 h
      obtain ⟨ws, hws, rfl⟩ := children?_eq_some_iff.1 halternate
      cases h
      exact .branchElse head hv hvs hws
    · next absent =>
      cases h
      exact .branch head hv hvs (Bool.eq_false_iff.2 absent)
  | loopUntil =>
    obtain ⟨condition, hcondition, h⟩ := Option.bind_eq_some_iff.1 h
    obtain ⟨body, hbody, h⟩ := Option.bind_eq_some_iff.1 h
    obtain ⟨v, hv, rfl⟩ := child?_eq_some_iff.1 hcondition
    obtain ⟨vs, hvs, rfl⟩ := children?_eq_some_iff.1 hbody
    cases h
    exact .loopUntil head hv hvs
  | loopFromTo =>
    obtain ⟨counter, hcounter, h⟩ := Option.bind_eq_some_iff.1 h
    obtain ⟨⟨first, last⟩, hbounds, h⟩ := Option.bind_eq_some_iff.1 h
    obtain ⟨body, hbody, h⟩ := Option.bind_eq_some_iff.1 h
    obtain ⟨range, a, b, hrange, spans, rfl, rfl⟩ := bounds?_eq_some_iff.1 hbounds
    obtain ⟨vs, hvs, rfl⟩ := children?_eq_some_iff.1 hbody
    cases h
    exact .loopFromTo head hcounter hrange spans hvs
  | function =>
    obtain ⟨name, hname, h⟩ := Option.bind_eq_some_iff.1 h
    obtain ⟨params, hparams, h⟩ := Option.bind_eq_some_iff.1 h
    obtain ⟨body, hbody, h⟩ := Option.bind_eq_some_iff.1 h
    obtain ⟨vs, hvs, rfl⟩ := children?_eq_some_iff.1 hbody
    cases h
    exact .function head hname hparams hvs
  | ret =>
    obtain ⟨value, hvalue, h⟩ := Option.bind_eq_some_iff.1 h
    obtain ⟨v, hv, rfl⟩ := child?_eq_some_iff.1 hvalue
    cases h
    exact .ret head hv
  | expression =>
    obtain ⟨op, hop, h⟩ := Option.bind_eq_some_iff.1 h
    cases h
    exact .expression head hop
  | identifier =>
    obtain ⟨name, hname, h⟩ := Option.bind_eq_some_iff.1 h
    cases h
    exact .identifier head hname
  | number =>
    obtain ⟨x, hx, h⟩ := Option.bind_eq_some_iff.1 h
    cases h
    exact .number head hx
  | string =>
    obtain ⟨s, hs, h⟩ := Option.bind_eq_some_iff.1 h
    cases h
    exact .string head hs
  | boolean =>
    obtain ⟨b, hb, h⟩ := Option.bind_eq_some_iff.1 h
    cases h
    exact .boolean head hb
  | length =>
    obtain ⟨source, hsource, h⟩ := Option.bind_eq_some_iff.1 h
    cases h
    exact .length head hsource
  | substring =>
    obtain ⟨source, hsource, h⟩ := Option.bind_eq_some_iff.1 h
    obtain ⟨first, hfirst, h⟩ := Option.bind_eq_some_iff.1 h
    obtain ⟨last, hlast, h⟩ := Option.bind_eq_some_iff.1 h
    obtain ⟨v, hv, rfl⟩ := child?_eq_some_iff.1 hfirst
    obtain ⟨w, hw, rfl⟩ := child?_eq_some_iff.1 hlast
    cases h
    exact .substring head hsource hv hw

end Node

end Playback
