import Playback.Proofs.Origins

/-!
# Parts of texts

A part of a text is told by two bounds, whatever they are: `clamp` limits them to the text, and what lies
between them is the part. Parts that lie side by side make up the part from the first bound to the last
(`between_append`), and a part of a part is a part of the whole (`between_between`).

Main statement: these laws for the substrings that expressions cut out of a variable, where a part that is
stored is cut again under its new name (`Store.parts_compose`).
-/

namespace Playback

/-! ## Lists -/

section

variable {α : Type} (xs : List α)

lemma clamp_le (length : Nat) (i : Int) : clamp length i ≤ length := by
  unfold clamp
  omega

/-- Limiting bounds leaves them in their order. -/
lemma clamp_mono (length : Nat) {i j : Int} (h : i ≤ j) : clamp length i ≤ clamp length j := by
  unfold clamp
  omega

lemma between_eq_take_drop (first last : Int) : between xs first last =
    (xs.drop (clamp xs.length first)).take (clamp xs.length last - clamp xs.length first) := by
  rw [between_eq_drop_take, List.drop_take]

lemma length_between (first last : Int) : (between xs first last).length =
    clamp xs.length last - clamp xs.length first := by
  rw [between_eq_drop_take, List.length_drop, List.length_take, Nat.min_eq_left (clamp_le ..)]

/-- Two parts that lie side by side. -/
lemma between_append {a b c : Int} (hab : a ≤ b) (hbc : b ≤ c) :
    between xs a b ++ between xs b c = between xs a c := by
  have first := clamp_mono xs.length hab
  have second := clamp_mono xs.length hbc
  simp only [between_eq_take_drop]
  generalize clamp xs.length a = lo at *
  generalize clamp xs.length b = mid at *
  generalize clamp xs.length c = hi at *
  rw [show hi - lo = (mid - lo) + (hi - mid) by omega, List.take_add, List.drop_drop,
    Nat.add_sub_cancel' first]

/-- Bounds that count from the beginning of a part are limited to the part, in the whole as in the part. -/
lemma clamp_within {length lo hi : Nat} (ordered : lo ≤ hi) (bounded : hi ≤ length) {c d : Int}
    (inside : lo + max c 0 ≤ min (hi : Int) (lo + max d 0)) :
    clamp length (lo + max c 0) = lo + clamp (hi - lo) c ∧
      clamp length (min (hi : Int) (lo + max d 0)) = min (lo + clamp (hi - lo) d) hi := by
  unfold clamp
  omega

/-- Bounds that cross have nothing between them in a part, either. -/
lemma le_of_crossed {lo hi : Nat} (ordered : lo ≤ hi) {c d : Int}
    (crossed : ¬lo + max c 0 ≤ min (hi : Int) (lo + max d 0)) :
    min (lo + clamp (hi - lo) d) hi ≤ lo + clamp (hi - lo) c := by
  unfold clamp
  omega

/-- A part of a part lies between bounds that count from the first bound of the part, and does not go on
behind its last one. -/
lemma between_between {a b : Int} (hab : a ≤ b) (c d : Int) :
    between (between xs a b) c d =
      if clamp xs.length a + max c 0 ≤ min (clamp xs.length b : Int) (clamp xs.length a + max d 0) then
        between xs (clamp xs.length a + max c 0) (min (clamp xs.length b) (clamp xs.length a + max d 0))
      else [] := by
  have ordered := clamp_mono xs.length hab
  have part : between (between xs a b) c d =
      (xs.take (min (clamp xs.length a + clamp (clamp xs.length b - clamp xs.length a) d)
        (clamp xs.length b))).drop
          (clamp xs.length a + clamp (clamp xs.length b - clamp xs.length a) c) := by
    rw [between_eq_drop_take _ c, length_between, between_eq_drop_take xs a, List.take_drop,
      List.drop_drop, List.take_take]
  rw [part]
  split
  next inside =>
    obtain ⟨first, last⟩ := clamp_within ordered (clamp_le xs.length b) inside
    rw [between_eq_drop_take, first, last]
  next crossed =>
    have le := le_of_crossed ordered crossed
    exact List.drop_eq_nil_of_le ((List.length_take_le ..).trans le)

end

/-! ## Expressions -/

/-- The text between two bounds of a value as it is shown. -/
def Value.part (v : Value) (first last : Int) : String :=
  String.ofList (between v.display.toList first last)

/-- The value of the expression is a bound of a substring, and its whole part is `i`. -/
def Node.IsBound (store : Store) (n : Node) (i : Int) : Prop :=
  (do let v ← n.evaluate store; v.requireIndex) = .ok i

namespace Value

variable (v : Value) (source : String) {a b : Int}

lemma cut_eq (h : a ≤ b) : v.cut source a b = .ok (.slice ⟨source, a, b, v.part a b⟩) :=
  if_neg (Int.not_lt.2 h)

lemma length_part (a b : Int) :
    (v.part a b).length = clamp v.display.length b - clamp v.display.length a := by
  rw [part, String.length_ofList, length_between, String.length_toList]

lemma part_append {c : Int} (hab : a ≤ b) (hbc : b ≤ c) : v.part a b ++ v.part b c = v.part a c := by
  rw [part, part, ← String.ofList_append, between_append _ hab hbc]
  rfl

/-- A part of a stored part is a part of the text that the part was cut out of. -/
lemma part_slice (hab : a ≤ b) (c d : Int) : (slice ⟨source, a, b, v.part a b⟩).part c d =
    let n := v.display.length
    if clamp n a + max c 0 ≤ min (clamp n b : Int) (clamp n a + max d 0) then
      v.part (clamp n a + max c 0) (min (clamp n b) (clamp n a + max d 0))
    else "" := by
  have part_of_part := between_between v.display.toList hab c d
  rw [String.length_toList] at part_of_part
  show String.ofList (between (String.ofList (between v.display.toList a b)).toList c d) = _
  rw [String.toList_ofList, part_of_part]
  exact apply_ite String.ofList ..

end Value

lemma Node.evaluate_substring {store : Store} {source : String} {v : Value} {first last : Node}
    {a b : Int} (reads : store.get? source = some v) (hfirst : first.IsBound store a)
    (hlast : last.IsBound store b) (line : Option UInt32) :
    (substring line source first last).evaluate store = v.cut source a b := by
  obtain ⟨x, value, index⟩ := bind_eq_ok_iff.1 hfirst
  obtain ⟨y, value', index'⟩ := bind_eq_ok_iff.1 hlast
  have found : store.read source = .ok v := by rw [Store.read, reads]
  rw [evaluate, found, ok_bind, value, ok_bind, index, ok_bind, value', ok_bind, index', ok_bind]

/-- The length of a part that was stored. -/
lemma Node.evaluate_length_part (store : Store) (v : Value) (source name : String) (a b : Int)
    (line : Option UInt32) :
    (length line name).evaluate (store.set name (.slice ⟨source, a, b, v.part a b⟩)) =
      .ok (.number (Float.ofNat (clamp v.display.length b - clamp v.display.length a))) := by
  rw [evaluate, Store.read, Store.get?_set, if_pos rfl, ← v.length_part]
  rfl

/-- What a substring of a variable is, whatever its bounds are, as long as they are in their order: the
characters between the bounds, both limited to the text, and so many of them when the part is stored and its
length is asked for. Parts side by side make up a part. A part of a stored part is a part of the text, or is
empty where its bounds cross in there. -/
theorem Store.parts_compose {store : Store} {source : String} {v : Value}
    (reads : store.get? source = some v) :
    let n := v.display.length
    (∀ first last a b, Node.IsBound store first a → Node.IsBound store last b → a ≤ b →
      (∀ line, (Node.substring line source first last).evaluate store =
        .ok (.slice ⟨source, a, b, v.part a b⟩)) ∧
      clamp n a ≤ clamp n b ∧
      (v.part a b).toList = (v.display.toList.drop (clamp n a)).take (clamp n b - clamp n a) ∧
      (v.part a b).length = clamp n b - clamp n a ∧
      ∀ name line, (Node.length line name).evaluate
        (store.set name (.slice ⟨source, a, b, v.part a b⟩)) =
          .ok (.number (Float.ofNat (clamp n b - clamp n a)))) ∧
    (∀ a b c, a ≤ b → b ≤ c → v.part a b ++ v.part b c = v.part a c) ∧
    ∀ a b c d name third fourth, a ≤ b → c ≤ d →
      let stored := store.set name (.slice ⟨source, a, b, v.part a b⟩)
      let first : Int := clamp n a + max c 0
      let last : Int := min (clamp n b) (clamp n a + max d 0)
      Node.IsBound stored third c → Node.IsBound stored fourth d →
      ∀ line, (Node.substring line name third fourth).evaluate stored =
        .ok (.slice ⟨name, c, d, if first ≤ last then v.part first last else ""⟩) := by
  intro n
  refine ⟨fun first last a b hfirst hlast hab => ⟨fun line => ?_, clamp_mono n hab, ?_, v.length_part a b,
    fun name line => Node.evaluate_length_part store v source name a b line⟩,
    fun a b c => v.part_append, ?_⟩
  · rw [Node.evaluate_substring reads hfirst hlast, v.cut_eq source hab]
  · rw [Value.part, String.toList_ofList, between_eq_take_drop, String.length_toList]
  · intro a b c d name third fourth hab hcd stored first last hthird hfourth line
    have found : stored.get? name = some (.slice ⟨source, a, b, v.part a b⟩) := by
      rw [Store.get?_set, if_pos rfl]
    rw [Node.evaluate_substring found hthird hfourth, Value.cut_eq _ name hcd, v.part_slice source hab]

/-- A part is cut out of a text of four characters with a bound in front of it and a bound that is no whole
number. It takes the place of the text, and what is cut out of it ends with it. -/
theorem Store.parts_compose_replacing :
    let v : Value := .text "né🙂x"
    let store := Store.empty.set "s" v
    let first := Node.number none (-2)
    let last := Node.number none 2.5
    let third := Node.number none 1
    let fourth := Node.number none 9
    let stored := store.set "s" (.slice ⟨"s", -2, 2, v.part (-2) 2⟩)
    first.IsBound store (-2) ∧ last.IsBound store 2 ∧ third.IsBound stored 1 ∧ fourth.IsBound stored 9 ∧
      (Node.substring none "s" first last).evaluate store = .ok (.slice ⟨"s", -2, 2, "né"⟩) ∧
      (Node.length none "s").evaluate stored = .ok (.number (Float.ofNat 2)) ∧
      v.part (-2) 2 ++ v.part 2 9 = v.part (-2) 9 ∧
      (Node.substring none "s" third fourth).evaluate stored = .ok (.slice ⟨"s", 1, 9, "é"⟩) := by
  intro v store first last third fourth stored
  have bounds : first.IsBound store (-2) ∧ last.IsBound store 2 := ⟨rfl, rfl⟩
  have bounds' : third.IsBound stored 1 ∧ fourth.IsBound stored 9 := ⟨rfl, rfl⟩
  have characters : between "né🙂x".toList (-2) 2 = ['n', 'é'] ∧ between "né🙂x".toList 1 2 = ['é'] :=
    ⟨rfl, rfl⟩
  have front : v.part (-2) 2 = "né" := congrArg String.ofList characters.1
  have inside : v.part 1 2 = "é" := congrArg String.ofList characters.2
  have size : v.display.length = 4 := by
    rw [← String.length_toList]
    exact congrArg List.length (rfl : "né🙂x".toList = ['n', 'é', '🙂', 'x'])
  have limits : clamp v.display.length (-2) = 0 ∧ clamp v.display.length 2 = 2 := by
    rw [size]
    decide
  obtain ⟨whole, joined, inner⟩ := Store.parts_compose (rfl : store.get? "s" = some v)
  obtain ⟨cut, -, -, -, length⟩ := whole first last (-2) 2 bounds.1 bounds.2 (by decide)
  have count := length "s" none
  have again := inner (-2) 2 1 9 "s" third fourth (by decide) (by decide) bounds'.1 bounds'.2 none
  rw [limits.1, limits.2] at count again
  rw [if_pos (by decide)] at again
  change _ = Except.ok (Value.slice ⟨"s", 1, 9, v.part 1 2⟩) at again
  refine ⟨bounds.1, bounds.2, bounds'.1, bounds'.2, ?_, count,
    joined (-2) 2 9 (by decide) (by decide), ?_⟩
  · rw [cut none, front]
  · rw [again, inside]

end Playback
