import Playback.Document
import Playback.Proofs.Printing
import Playback.Proofs.Recognition

/-!
# Local readings

What is wrong with a child stays in the child. `Node.Child` says where the children of a node stand
in the object that it was read from, and what the node is with another child there; `Place.write`
puts another value in such a place. Neither the tag nor the line nor any other child depends on what
stands there, and the list of statements is all that a document is asked for.

Main statement: the line, the kind and the children of every object, and when a text is a document
(`Program.reads_locally`).
-/

namespace Playback

/-! ## Places -/

/-- The fields with another value for the one called `key`. -/
def Json.put (key : String) (v : Json) : List (String × Json) → List (String × Json)
  | [] => []
  | (k, w) :: rest => if k = key then (k, v) :: rest else (k, w) :: put key v rest

lemma Json.get?_put_self {key : String} {fields : List (String × Json)} {w : Json}
    (h : Json.get? key fields = some w) (v : Json) :
    Json.get? key (Json.put key v fields) = some v := by
  induction fields with
  | nil => cases h
  | cons field rest ih =>
    obtain ⟨k, u⟩ := field
    by_cases hk : k = key
    · simp [put, get?, hk]
    · rw [get?, if_neg hk] at h
      simp [put, get?, hk, ih h]

lemma Json.get?_put_ne {key other : String} (h : key ≠ other) (v : Json)
    (fields : List (String × Json)) :
    Json.get? other (Json.put key v fields) = Json.get? other fields := by
  induction fields with
  | nil => rfl
  | cons field rest ih =>
    obtain ⟨k, u⟩ := field
    by_cases hk : k = key
    · subst hk
      simp [put, get?, h]
    · simp [put, get?, hk, ih]

/-- Where a child stands in the object of its parent. -/
inductive Place where
  /-- The value of a field. -/
  | field (key : String)
  /-- An element of the list in a field. -/
  | element (key : String) (index : Nat)
  /-- The first or the last bound in the field `range`. -/
  | bound (isLast : Bool)

namespace Place

/-- The name of a bound. -/
def boundKey (isLast : Bool) : String :=
  if isLast then "end" else "start"

/-- The value in a place. -/
def read (fields : List (String × Json)) : Place → Option Json
  | field key => Json.get? key fields
  | element key index =>
    match Json.get? key fields with
    | some (.array vs) => vs[index]?
    | _ => none
  | bound isLast =>
    match Json.get? "range" fields with
    | some (.array [first, last]) => some (if isLast then last else first)
    | some (.object bounds) => Json.get? (boundKey isLast) bounds
    | _ => none

/-- The fields with another value in a place. -/
def write (v : Json) (fields : List (String × Json)) : Place → List (String × Json)
  | field key => Json.put key v fields
  | element key index =>
    match Json.get? key fields with
    | some (.array vs) => Json.put key (.array (vs.set index v)) fields
    | _ => fields
  | bound isLast =>
    match Json.get? "range" fields with
    | some (.array [first, last]) =>
      Json.put "range" (.array (if isLast then [first, v] else [v, last])) fields
    | some (.object bounds) => Json.put "range" (.object (Json.put (boundKey isLast) v bounds)) fields
    | _ => fields

end Place

/-- A child of the node, its place, and the node with another child there. -/
inductive Node.Child : Node → Place → Node → (Node → Node) → Prop where
  | declared {line name value} :
      Child (.declaration line name value) (.field "value") value (.declaration line name)
  | printed {line value} : Child (.print line value) (.field "value") value (.print line)
  | condition {line condition consequent alternate} :
      Child (.branch line condition consequent alternate) (.field "condition") condition
        fun n => .branch line n consequent alternate
  | consequent {line condition consequent alternate i n} (at_i : consequent[i]? = some n) :
      Child (.branch line condition consequent alternate) (.element "consequent" i) n
        fun n => .branch line condition (consequent.set i n) alternate
  | alternate {line condition consequent alternate i n} (at_i : alternate[i]? = some n) :
      Child (.branch line condition consequent (some alternate)) (.element "alternate" i) n
        fun n => .branch line condition consequent (some (alternate.set i n))
  | goal {line condition body} :
      Child (.loopUntil line condition body) (.field "condition") condition
        fun n => .loopUntil line n body
  | repeated {line condition body i n} (at_i : body[i]? = some n) :
      Child (.loopUntil line condition body) (.element "body" i) n
        fun n => .loopUntil line condition (body.set i n)
  | start {line counter first last body} :
      Child (.loopFromTo line counter first last body) (.bound false) first
        fun n => .loopFromTo line counter n last body
  | stop {line counter first last body} :
      Child (.loopFromTo line counter first last body) (.bound true) last
        fun n => .loopFromTo line counter first n body
  | counted {line counter first last body i n} (at_i : body[i]? = some n) :
      Child (.loopFromTo line counter first last body) (.element "body" i) n
        fun n => .loopFromTo line counter first last (body.set i n)
  | body {line name params body i n} (at_i : body[i]? = some n) :
      Child (.function line name params body) (.element "body" i) n
        fun n => .function line name params (body.set i n)
  | returned {line value} : Child (.ret line value) (.field "value") value (.ret line)
  | left {line left op right} :
      Child (.expression line (some left) op right) (.field "left") left
        fun n => .expression line (some n) op right
  | right {line left op right} :
      Child (.expression line left op (some right)) (.field "right") right
        fun n => .expression line left op (some n)
  | first {line source first last} :
      Child (.substring line source first last) (.field "start") first
        fun n => .substring line source n last
  | last {line source first last} :
      Child (.substring line source first last) (.field "end") last
        fun n => .substring line source first n

namespace Node

lemma Child.put_self {n child : Node} {place : Place} {put : Node → Node}
    (h : n.Child place child put) : put child = n := by
  have set_self : ∀ {ns : List Node} {i : Nat}, ns[i]? = some child → ns.set i child = ns := by
    intro ns i at_i
    obtain ⟨lt, rfl⟩ := List.getElem?_eq_some_iff.1 at_i
    exact List.set_getElem_self lt
  cases h with
  | consequent at_i | alternate at_i | repeated at_i | counted at_i | body at_i =>
    dsimp only
    rw [set_self at_i]
  | _ => rfl

variable {fields : List (String × Json)}

/-- The value in the place reads as the child, and with any value but `null` in the place the object
reads as the node with another child there. -/
def HoldsReading (fields : List (String × Json)) (place : Place) (child : Node)
    (put : Node → Node) : Prop :=
  ∃ v, place.read fields = some v ∧ child = ofJson v ∧
    ∀ w, w ≠ .null → ofJson (.object (place.write w fields)) = put (ofJson w)

lemma Headed.put {tag : Tag} {line : Option UInt32} (head : Headed fields tag line) {key : String}
    (hline : key ≠ "line") (htype : key ≠ "type") (v : Json) :
    Headed (Json.put key v fields) tag line := by
  constructor
  · rw [lineField?, Json.get?_put_ne hline]
    exact head.line
  · rw [tagField?, Json.get?_put_ne htype]
    exact head.tag

section

variable {key other : String} (h : key ≠ other) (w : Json)
include h

lemma textField?_put : textField? other (Json.put key w fields) = textField? other fields := by
  rw [textField?, textField?, Json.get?_put_ne h]

lemma textsField?_put : textsField? other (Json.put key w fields) = textsField? other fields := by
  rw [textsField?, textsField?, Json.get?_put_ne h]

lemma isGiven_put : isGiven other (Json.put key w fields) = isGiven other fields := by
  rw [isGiven, isGiven, Json.get?_put_ne h]

lemma operand?_put : operand? other (Json.put key w fields) = operand? other fields := by
  rw [operand?, operand?, isGiven_put h, child?_eq, child?_eq, Json.get?_put_ne h]

end

lemma operatorField?_put {key : String} (h : key ≠ "operator") (w : Json) :
    operatorField? (Json.put key w fields) = operatorField? fields := by
  rw [operatorField?, operatorField?, Json.get?_put_ne h]

/-- With another value beside its line, its tag and its operator, an expression stays one. -/
lemma ofJson_expression_put {line : Option UInt32} {op : Operator}
    (head : Headed fields .expression line) (applies : operatorField? fields = some op)
    {key : String} (hline : key ≠ "line") (htype : key ≠ "type") (hop : key ≠ "operator") (w : Json) :
    ofJson (.object (Json.put key w fields)) =
      .expression line (operand? "left" (Json.put key w fields)) op
        (operand? "right" (Json.put key w fields)) := by
  have applies' := (operatorField?_put hop w).trans applies
  exact Recognised.ofJson_eq (.expression (head.put hline htype w) applies')

lemma exists_of_operand? {key : String} {n : Node} (h : operand? key fields = some n) :
    ∃ v, Json.get? key fields = some v ∧ n = ofJson v := by
  unfold operand? at h
  split at h
  · exact child?_eq_some_iff.1 h
  · cases h

namespace HoldsReading

lemma field {key : String} {v : Json} {put : Node → Node} (value : Json.get? key fields = some v)
    (h : ∀ w, w ≠ .null → ofJson (.object (Json.put key w fields)) = put (ofJson w)) :
    HoldsReading fields (.field key) (ofJson v) put :=
  ⟨v, value, rfl, h⟩

lemma element {key : String} {vs : List Json} {i : Nat} {c : Node} (put : List Node → Node)
    (list : Json.get? key fields = some (.array vs)) (at_i : (vs.map ofJson)[i]? = some c)
    (h : ∀ ws, ofJson (.object (Json.put key (.array ws) fields)) = put (ws.map ofJson)) :
    HoldsReading fields (.element key i) c fun n => put ((vs.map ofJson).set i n) := by
  rw [List.getElem?_map, Option.map_eq_some_iff] at at_i
  obtain ⟨v, hv, rfl⟩ := at_i
  refine ⟨v, ?_, rfl, fun w _ => ?_⟩
  · simp only [Place.read, list, hv]
  · simp only [Place.write, list, h, List.map_set]

lemma bound {range a b : Json} (put : Node → Node → Node)
    (ranges : Json.get? "range" fields = some range) (spans : Spans range a b)
    (h : ∀ {range' a' b'}, Spans range' a' b' →
      ofJson (.object (Json.put "range" range' fields)) = put (ofJson a') (ofJson b')) :
    HoldsReading fields (.bound false) (ofJson a) (put · (ofJson b)) ∧
      HoldsReading fields (.bound true) (ofJson b) (put (ofJson a)) := by
  cases spans with
  | list =>
    refine ⟨⟨a, ?_, rfl, fun w _ => ?_⟩, ⟨b, ?_, rfl, fun w _ => ?_⟩⟩
    · simp only [Place.read, ranges]; rfl
    · simp only [Place.write, ranges]; exact h .list
    · simp only [Place.read, ranges]; rfl
    · simp only [Place.write, ranges]; exact h .list
  | object start stop =>
    refine ⟨⟨a, ?_, rfl, fun w _ => ?_⟩, ⟨b, ?_, rfl, fun w _ => ?_⟩⟩
    · simp only [Place.read, ranges]; exact start
    · simp only [Place.write, ranges]
      exact h (.object (Json.get?_put_self start w) ((Json.get?_put_ne (by decide) ..).trans stop))
    · simp only [Place.read, ranges]; exact stop
    · simp only [Place.write, ranges]
      exact h (.object ((Json.get?_put_ne (by decide) ..).trans start) (Json.get?_put_self stop w))

end HoldsReading

lemma Recognised.child {tag : Tag} {n : Node} (h : Recognised fields tag n) {place : Place}
    {c : Node} {put : Node → Node} (child : n.Child place c put) : HoldsReading fields place c put := by
  cases h with
  | declaration head named value =>
    cases child with
    | declared =>
      refine .field value fun w _ => Recognised.ofJson_eq
        (.declaration (head.put (by decide) (by decide) w) ?_ ?_)
      · exact (textField?_put (by decide) w).trans named
      · exact Json.get?_put_self value w
  | print head value =>
    cases child with
    | printed =>
      refine .field value fun w _ => Recognised.ofJson_eq
        (.print (head.put (by decide) (by decide) w) ?_)
      · exact Json.get?_put_self value w
  | branch head condition consequent alternate =>
    cases child with
    | condition =>
      refine .field condition fun w _ => Recognised.ofJson_eq
        (.branch (head.put (by decide) (by decide) w) ?_ ?_ ?_)
      · exact Json.get?_put_self condition w
      · exact (Json.get?_put_ne (by decide) ..).trans consequent
      · exact (isGiven_put (by decide) w).trans alternate
    | consequent at_i =>
      refine .element (fun ns => .branch _ _ ns _) consequent at_i fun ws =>
        Recognised.ofJson_eq (.branch (head.put (by decide) (by decide) _) ?_ ?_ ?_)
      · exact (Json.get?_put_ne (by decide) ..).trans condition
      · exact Json.get?_put_self consequent _
      · exact (isGiven_put (by decide) _).trans alternate
  | branchElse head condition consequent alternate =>
    cases child with
    | condition =>
      refine .field condition fun w _ => Recognised.ofJson_eq
        (.branchElse (head.put (by decide) (by decide) w) ?_ ?_ ?_)
      · exact Json.get?_put_self condition w
      · exact (Json.get?_put_ne (by decide) ..).trans consequent
      · exact (Json.get?_put_ne (by decide) ..).trans alternate
    | consequent at_i =>
      refine .element (fun ns => .branch _ _ ns _) consequent at_i fun ws =>
        Recognised.ofJson_eq (.branchElse (head.put (by decide) (by decide) _) ?_ ?_ ?_)
      · exact (Json.get?_put_ne (by decide) ..).trans condition
      · exact Json.get?_put_self consequent _
      · exact (Json.get?_put_ne (by decide) ..).trans alternate
    | alternate at_i =>
      refine .element (fun ns => .branch _ _ _ (some ns)) alternate at_i fun ws =>
        Recognised.ofJson_eq (.branchElse (head.put (by decide) (by decide) _) ?_ ?_ ?_)
      · exact (Json.get?_put_ne (by decide) ..).trans condition
      · exact (Json.get?_put_ne (by decide) ..).trans consequent
      · exact Json.get?_put_self alternate _
  | loopUntil head condition body =>
    cases child with
    | goal =>
      refine .field condition fun w _ => Recognised.ofJson_eq
        (.loopUntil (head.put (by decide) (by decide) w) ?_ ?_)
      · exact Json.get?_put_self condition w
      · exact (Json.get?_put_ne (by decide) ..).trans body
    | repeated at_i =>
      refine .element (.loopUntil _ _) body at_i fun ws =>
        Recognised.ofJson_eq (.loopUntil (head.put (by decide) (by decide) _) ?_ ?_)
      · exact (Json.get?_put_ne (by decide) ..).trans condition
      · exact Json.get?_put_self body _
  | loopFromTo head counts ranges spans body =>
    have bounds := HoldsReading.bound (fun first last => .loopFromTo _ _ first last _) ranges
      spans fun spans' => Recognised.ofJson_eq (.loopFromTo (head.put (by decide) (by decide) _)
        ((textField?_put (by decide) _).trans counts) (Json.get?_put_self ranges _) spans'
        ((Json.get?_put_ne (by decide) ..).trans body))
    cases child with
    | start => exact bounds.1
    | stop => exact bounds.2
    | counted at_i =>
      refine .element (.loopFromTo _ _ _ _) body at_i fun ws =>
        Recognised.ofJson_eq (.loopFromTo (head.put (by decide) (by decide) _) ?_ ?_ spans ?_)
      · exact (textField?_put (by decide) _).trans counts
      · exact (Json.get?_put_ne (by decide) ..).trans ranges
      · exact Json.get?_put_self body _
  | function head named takes body =>
    cases child with
    | body at_i =>
      refine .element (.function _ _ _) body at_i fun ws =>
        Recognised.ofJson_eq (.function (head.put (by decide) (by decide) _) ?_ ?_ ?_)
      · exact (textField?_put (by decide) _).trans named
      · exact (textsField?_put (by decide) _).trans takes
      · exact Json.get?_put_self body _
  | ret head value =>
    cases child with
    | returned =>
      refine .field value fun w _ => Recognised.ofJson_eq
        (.ret (head.put (by decide) (by decide) w) ?_)
      · exact Json.get?_put_self value w
  | @expression line op head applies =>
    generalize hleft : operand? "left" fields = l at child
    generalize hright : operand? "right" fields = r at child
    cases child with
    | left =>
      obtain ⟨v, hv, rfl⟩ := exists_of_operand? hleft
      refine .field hv fun w given => ?_
      rw [ofJson_expression_put head applies (by decide) (by decide) (by decide),
        operand?_of_get? (Json.get?_put_self hv w) given, operand?_put (by decide), hright]
    | right =>
      obtain ⟨v, hv, rfl⟩ := exists_of_operand? hright
      refine .field hv fun w given => ?_
      rw [ofJson_expression_put head applies (by decide) (by decide) (by decide),
        operand?_of_get? (Json.get?_put_self hv w) given, operand?_put (by decide), hleft]
  | substring head reads start stop =>
    cases child with
    | first =>
      refine .field start fun w _ => Recognised.ofJson_eq
        (.substring (head.put (by decide) (by decide) w) ?_ ?_ ?_)
      · exact (textField?_put (by decide) w).trans reads
      · exact Json.get?_put_self start w
      · exact (Json.get?_put_ne (by decide) ..).trans stop
    | last =>
      refine .field stop fun w _ => Recognised.ofJson_eq
        (.substring (head.put (by decide) (by decide) w) ?_ ?_ ?_)
      · exact (textField?_put (by decide) w).trans reads
      · exact (Json.get?_put_ne (by decide) ..).trans start
      · exact Json.get?_put_self stop w
  | identifier | number | string | boolean | length => cases child

/-! ## Lines and tags -/

lemma lineField?_eq_some {line : Option UInt32} (h : lineField? fields = some line) :
    line = (Json.get? "line" fields).bind lineNumber? := by
  unfold lineField? at h
  split at h
  · next absent =>
    cases h
    rw [absent]
    rfl
  · next null =>
    cases h
    rw [null]
    rfl
  · next v _ given =>
    rw [given, Option.bind_some]
    obtain ⟨l, hl, rfl⟩ := Option.map_eq_some_iff.1 h
    exact hl.symm

lemma Recognised.headed {tag : Tag} {n : Node} (h : Recognised fields tag n) :
    Headed fields tag n.line := by
  cases h <;> assumption

lemma Recognised.kind_eq {tag : Tag} {n : Node} (h : Recognised fields tag n) : n.kind = tag.name := by
  cases h <;> rfl

/-- The line of an object is the whole number in its field, if there is one. -/
lemma line_ofJson (fields : List (String × Json)) :
    (ofJson (.object fields)).line = (Json.get? "line" fields).bind lineNumber? := by
  rw [ofJson_object]
  cases h : ofObject? fields with
  | none => rfl
  | some n =>
    obtain ⟨tag, recognised⟩ := recognised_of_ofObject? h
    exact lineField?_eq_some recognised.headed.line

end Node

/-- The value designates the tag, by its name or by its number. -/
def Tag.IsDesignatedBy (tag : Tag) (v : Json) : Prop :=
  v = .string tag.name ∨ ∃ k : Nat, all[k]? = some tag ∧ v = Json.ofInt k

lemma Tag.isDesignatedBy_of_tagField? {fields : List (String × Json)} {tag : Tag}
    (h : Node.tagField? fields = some tag) :
    ∃ v, Json.get? "type" fields = some v ∧ tag.IsDesignatedBy v := by
  unfold Node.tagField? at h
  split at h
  · next name hname =>
    have named : tag.name = name := by
      have found := List.find?_some h
      exact of_decide_eq_true found
    exact ⟨_, hname, .inl (named ▸ rfl)⟩
  · next n hn =>
    obtain ⟨k, natural, hk⟩ := Option.bind_eq_some_iff.1 h
    rw [Node.natural?_eq_some_iff.1 natural] at hn
    exact ⟨_, hn, .inr ⟨k, hk, rfl⟩⟩
  · cases h

/-! ## Documents -/

/-- The text of a document, as it is spelled, holds these values as its list of statements: they are
the list in the only field `program` of an object, or in a list of nothing else. -/
inductive RawJson.Carries (values : List Json) : RawJson → Prop where
  | object {fs fields vs} (names : namedFields? fs = some fields)
      (program : named "program" fields = [.array vs])
      (decodes : decodeAll? (depthLimit - 2) vs = some values) : Carries values (.object fs)
  | list {vs} (decodes : decodeAll? (depthLimit - 2) vs = some values) :
      Carries values (.array [.array vs])

lemma RawJson.namedFields?_spelled (fs : List (String × Json)) :
    namedFields? (Json.spelledFields fs) = some (fs.map fun f => (f.1, f.2.spelled)) := by
  induction fs with
  | nil => rfl
  | cons f fs ih =>
    rw [Json.spelledFields, namedFields?, Json.decodeText?_chars, ih]
    rfl

namespace Program

lemma ofStatements?_eq_some_iff {depth : Nat} (h : depth ≠ 0) {raw : RawJson} {p : Program} :
    ofStatements? depth raw = some p ↔ ∃ vs values, raw = .array vs ∧
      RawJson.decodeAll? (depth - 1) vs = some values ∧ p = ⟨values.map Node.ofJson⟩ := by
  cases raw with
  | array vs =>
    rw [ofStatements?, if_neg h, Option.map_eq_some_iff]
    constructor
    · rintro ⟨values, decodes, rfl⟩
      exact ⟨vs, values, rfl, decodes, by rw [Node.ofJsons_eq_map]⟩
    · rintro ⟨_, values, heq, decodes, rfl⟩
      cases heq
      exact ⟨values, decodes, by rw [Node.ofJsons_eq_map]⟩
  | _ => simp [ofStatements?]

lemma ofRaw?_eq_some_iff {raw : RawJson} {p : Program} :
    ofRaw? RawJson.depthLimit raw = some p ↔
      ∃ values, raw.Carries values ∧ p = ⟨values.map Node.ofJson⟩ := by
  constructor
  · intro h
    match raw with
    | .object fs =>
      rw [ofRaw?, if_neg (by decide)] at h
      obtain ⟨fields, names, h⟩ := Option.bind_eq_some_iff.1 h
      split at h
      · next v program =>
        obtain ⟨vs, values, rfl, decodes, heq⟩ := (ofStatements?_eq_some_iff (by decide)).1 h
        exact ⟨values, .object names program decodes, heq⟩
      · cases h
    | .array [v] =>
      rw [ofRaw?, if_neg (by decide)] at h
      obtain ⟨vs, values, rfl, decodes, heq⟩ := (ofStatements?_eq_some_iff (by decide)).1 h
      exact ⟨values, .list decodes, heq⟩
    | .array [] | .array (_ :: _ :: _) | .null | .bool _ | .number _ | .string _ => cases h
  · rintro ⟨values, carries, rfl⟩
    cases carries with
    | object names program decodes =>
      rw [ofRaw?, if_neg (by decide), names, Option.bind_eq_bind, Option.bind_some, program]
      exact (ofStatements?_eq_some_iff (by decide)).2 ⟨_, values, rfl, decodes, rfl⟩
    | list decodes =>
      rw [ofRaw?, if_neg (by decide)]
      exact (ofStatements?_eq_some_iff (by decide)).2 ⟨_, values, rfl, decodes, rfl⟩

/-- A text is a document exactly when its list of statements is a list of JSON values, whatever
these look like, and each of them reads as a node. -/
lemma ofText?_eq_some_iff {text : String} {p : Program} :
    ofText? text = some p ↔ ∃ raw values, RawJson.ofText? text = some raw ∧ raw.Carries values ∧
      p = ⟨values.map Node.ofJson⟩ := by
  rw [ofText?, Option.bind_eq_some_iff]
  simp only [ofRaw?_eq_some_iff]
  constructor
  · rintro ⟨raw, reads, values, carries, heq⟩
    exact ⟨raw, values, reads, carries, heq⟩
  · rintro ⟨raw, values, reads, carries, heq⟩
    exact ⟨raw, reads, values, carries, heq⟩

/-- A document of statements reads as their program, wherever the document stands. -/
lemma ofRaw?_spelled {depth : Nat} {statements : List Json}
    (fits : ∀ v ∈ statements, Json.Fits depth v) :
    ofRaw? (depth + 2) (Json.spelled (.object [("program", .array statements)])) =
      some ⟨statements.map Node.ofJson⟩ := by
  have decodes := Json.decodeAll?_spelled fun v mem => (fits v mem).decode?_spelled
  rw [Json.spelled, ofRaw?, if_neg (Nat.succ_ne_zero _), RawJson.namedFields?_spelled]
  exact (ofStatements?_eq_some_iff (Nat.succ_ne_zero _)).2 ⟨_, statements, rfl, decodes, rfl⟩

/-- The text of a document of statements reads as their program. -/
lemma ofText?_render {statements : List Json}
    (fits : ∀ v ∈ statements, Json.Fits (RawJson.depthLimit - 2) v) (pretty : Bool) :
    ofText? (Json.render pretty (.object [("program", .array statements)])) =
      some ⟨statements.map Node.ofJson⟩ := by
  rw [ofText?, Json.rawOfText?_render, Option.bind_some]
  exact ofRaw?_spelled fits

/-- Every object reads as a node, whose line is the whole number in its field, if there is one.
Either it is recognised and of the kind that its type designates, or it is unsupported and named by
its type, if this is a text. Each child is the reading of the value in its place, and with any value
but `null` there nothing changes but the child. So a text is a document exactly when its list of
statements is a list of JSON values, whatever these look like. -/
theorem reads_locally :
    (∀ fields, ∃ n, Node.ofJson (.object fields) = n ∧
      (∀ l, n.line = some l ↔ Json.get? "line" fields = some (Json.ofInt l.toNat)) ∧
      ((∃ tag v, Node.Recognised fields tag n ∧ Json.get? "type" fields = some v ∧
          tag.IsDesignatedBy v ∧ n.kind = tag.name) ∨
        (∀ tag m, ¬ Node.Recognised fields tag m) ∧
          n = .unsupported n.line (((Json.get? "type" fields).bind Json.text?).getD "<untagged>")) ∧
      ∀ place child put, n.Child place child put →
        put child = n ∧ Node.HoldsReading fields place child put) ∧
    ∀ text p, ofText? text = some p ↔ ∃ raw values, RawJson.ofText? text = some raw ∧
      raw.Carries values ∧ p = ⟨values.map Node.ofJson⟩ := by
  refine ⟨fun fields => ⟨_, rfl, fun l => ?_, ?_, fun place child put h => ⟨h.put_self, ?_⟩⟩,
    fun text p => ofText?_eq_some_iff⟩
  · rw [Node.line_ofJson, Option.bind_eq_some_iff]
    simp only [Node.lineNumber?_eq_some_iff]
    constructor
    · rintro ⟨v, hv, rfl⟩
      exact hv
    · intro hv
      exact ⟨_, hv, rfl⟩
  · cases h : Node.ofObject? fields with
    | none =>
      right
      constructor
      · intro tag m recognised
        rw [recognised.ofObject?_eq] at h
        cases h
      · rw [Node.line_ofJson, Node.ofJson_object, h]
        rfl
    | some n =>
      obtain ⟨tag, recognised⟩ := Node.recognised_of_ofObject? h
      obtain ⟨v, hv, designated⟩ := Tag.isDesignatedBy_of_tagField? recognised.headed.tag
      left
      rw [recognised.ofJson_eq]
      exact ⟨tag, v, recognised, hv, designated, recognised.kind_eq⟩
  · cases hobject : Node.ofObject? fields with
    | none =>
      rw [Node.ofJson_object, hobject] at h
      cases h
    | some n =>
      obtain ⟨tag, recognised⟩ := Node.recognised_of_ofObject? hobject
      rw [recognised.ofJson_eq] at h
      exact recognised.child h

end Program

end Playback
