import Playback.Proofs.Semantics
import Mathlib.Tactic.Lemma

/-!
# Forests of frames

A list of frames is a forest: a definition holds the frames of its body. This module has the views in
which properties of traces are stated, with a lemma for each way to build a list. `Frame.flatOf` lists
all frames of a forest, `Frame.actionsOf` what they do in the order of execution, and `Frame.lists` the
forest itself with the bodies of all its definitions. A definition stands before its body in all of
them.

Giving frames their times changes neither lines nor actions, and what closes a block looks at the
greatest line among all its frames.
-/

namespace Playback

/-- A place in a list that is made up of two: it is in the first one, or in the second. -/
lemma append_eq_append_cons {α : Type} {xs ys before after : List α} {y : α}
    (h : xs ++ ys = before ++ y :: after) :
    (∃ after', xs = before ++ y :: after') ∨
      ∃ before', before = xs ++ before' ∧ ys = before' ++ y :: after := by
  rcases List.append_eq_append_iff.1 h with ⟨mid, rfl, later⟩ | ⟨mid, rfl, later⟩
  · exact .inr ⟨mid, rfl, later⟩
  · cases mid with
    | nil => exact .inr ⟨[], by simp, later.symm⟩
    | cons z mid =>
      obtain ⟨rfl, -⟩ := List.cons.inj later
      exact .inl ⟨mid, rfl⟩

/-- A place in a list with one more element behind it: the last one, or a place in the list. -/
lemma snoc_eq_append_cons {α : Type} {xs before after : List α} {x y : α}
    (h : xs ++ [x] = before ++ y :: after) :
    before = xs ∧ y = x ∨ ∃ after', xs = before ++ y :: after' := by
  rcases append_eq_append_cons h with earlier | ⟨before', rfl, last⟩
  · exact .inr earlier
  · cases before' with
    | nil =>
      obtain ⟨rfl, -⟩ := List.cons.inj last
      exact .inl ⟨List.append_nil _, rfl⟩
    | cons z before' =>
      have none := (List.cons.inj last).2
      simp at none

namespace Frame

variable {σ τ : Type}

/-- Induction on a forest by the frame in front. -/
@[elab_as_elim]
lemma forest_induction {motive : List (Frame τ) → Prop} (nil : motive [])
    (plain : ∀ line stamp action fs, motive fs → motive (.plain line stamp action :: fs))
    (define : ∀ line stamp name params body fs, motive body → motive fs →
      motive (.define line stamp name params body :: fs)) : ∀ fs, motive fs
  | [] => nil
  | .plain _ _ _ :: fs => plain _ _ _ fs (forest_induction nil plain define fs)
  | .define _ _ _ _ body :: fs =>
    define _ _ _ _ body fs (forest_induction nil plain define body)
      (forest_induction nil plain define fs)

mutual

/-- A frame with all the frames inside it. -/
def flat : Frame τ → List (Frame τ)
  | plain line stamp action => [plain line stamp action]
  | define line stamp name params body => define line stamp name params body :: flatOf body

/-- All the frames of a forest. -/
def flatOf : List (Frame τ) → List (Frame τ)
  | [] => []
  | f :: fs => flat f ++ flatOf fs

end

/-- What a frame does, if it is no definition. -/
def action? : Frame τ → Option Action
  | plain _ _ action => some action
  | define .. => none

/-- The frames inside a definition. -/
def body? : Frame τ → Option (List (Frame τ))
  | plain .. => none
  | define _ _ _ _ body => some body

/-- What the frames of a forest do, in the order of execution. -/
def actionsOf (fs : List (Frame τ)) : List Action :=
  (flatOf fs).filterMap action?

/-- The lines of all the frames of a forest. -/
def linesOf (fs : List (Frame τ)) : List UInt32 :=
  (flatOf fs).map line

/-- The bodies of all definitions in a forest. -/
def bodiesOf (fs : List (Frame τ)) : List (List (Frame τ)) :=
  (flatOf fs).filterMap body?

/-- The list itself, and the bodies of all definitions in it. -/
def lists (fs : List (Frame τ)) : List (List (Frame τ)) :=
  fs :: bodiesOf fs

section

variable (line : UInt32) (stamp : τ) (action : Action) (name : String) (params : List String)
  (body fs gs : List (Frame τ))

@[simp] lemma flatOf_nil : flatOf ([] : List (Frame τ)) = [] := rfl

@[simp] lemma flatOf_plain :
    flatOf (.plain line stamp action :: fs) = .plain line stamp action :: flatOf fs := rfl

@[simp] lemma flatOf_define :
    flatOf (.define line stamp name params body :: fs) =
      .define line stamp name params body :: (flatOf body ++ flatOf fs) := rfl

@[simp] lemma flatOf_append : flatOf (fs ++ gs) = flatOf fs ++ flatOf gs := by
  induction fs with
  | nil => rfl
  | cons f fs ih => simp [flatOf, ih]

@[simp] lemma actionsOf_nil : actionsOf ([] : List (Frame τ)) = [] := rfl

@[simp] lemma actionsOf_plain :
    actionsOf (.plain line stamp action :: fs) = action :: actionsOf fs := rfl

@[simp] lemma actionsOf_define :
    actionsOf (.define line stamp name params body :: fs) = actionsOf body ++ actionsOf fs := by
  rw [actionsOf, flatOf_define, List.filterMap_cons_none rfl, List.filterMap_append]
  rfl

@[simp] lemma actionsOf_append : actionsOf (fs ++ gs) = actionsOf fs ++ actionsOf gs := by
  simp [actionsOf]

@[simp] lemma bodiesOf_nil : bodiesOf ([] : List (Frame τ)) = [] := rfl

@[simp] lemma bodiesOf_plain : bodiesOf (.plain line stamp action :: fs) = bodiesOf fs := rfl

@[simp] lemma bodiesOf_define :
    bodiesOf (.define line stamp name params body :: fs) =
      body :: (bodiesOf body ++ bodiesOf fs) := by
  rw [bodiesOf, flatOf_define, List.filterMap_cons_some (show body? _ = some body from rfl),
    List.filterMap_append]
  rfl

@[simp] lemma bodiesOf_append : bodiesOf (fs ++ gs) = bodiesOf fs ++ bodiesOf gs := by
  simp [bodiesOf]

end

/-! ## The highest line -/

/-- The line is one of the lines, and none of them is greater. -/
structure IsHighest (l : UInt32) (ls : List UInt32) : Prop where
  isLine : l ∈ ls
  isGreatest : ∀ l' ∈ ls, l' ≤ l

lemma highestOf_eq_foldl (fs : List (Frame τ)) (least : UInt32) :
    highestOf least fs = (linesOf fs).foldl max least := by
  induction fs using forest_induction generalizing least with
  | nil => rfl
  | plain l stamp action fs ih => simp [highestOf, highest, ih, linesOf, Frame.line]
  | define l stamp name params body fs ihbody ih =>
    simp [highestOf, highest, ihbody, ih, linesOf, Frame.line, List.foldl_append]

lemma toNat_max (l l' : UInt32) : (max l l').toNat = max l.toNat l'.toNat := by
  show (if l ≤ l' then l' else l).toNat = _
  split <;> rename_i h <;> rw [UInt32.le_iff_toNat_le] at h <;> omega

lemma foldl_max_mem (ls : List UInt32) (least : UInt32) :
    ls.foldl max least = least ∨ ls.foldl max least ∈ ls := by
  induction ls generalizing least with
  | nil => exact .inl rfl
  | cons l ls ih =>
    rw [List.foldl_cons]
    rcases ih (max least l) with h | h
    · rw [h]
      show (if least ≤ l then l else least) = least ∨ (if least ≤ l then l else least) ∈ l :: ls
      split
      · exact .inr (List.mem_cons_self ..)
      · exact .inl rfl
    · exact .inr (List.mem_cons_of_mem _ h)

/-- What is found along a list of lines is nowhere exceeded. -/
lemma le_foldl_max (ls : List UInt32) (least : UInt32) :
    ∀ l ∈ least :: ls, l ≤ ls.foldl max least := by
  induction ls generalizing least with
  | nil => simp
  | cons l ls ih =>
    intro l' hl'
    rw [List.foldl_cons]
    have hmax := ih (max least l) (max least l) (List.mem_cons_self ..)
    rw [UInt32.le_iff_toNat_le, toNat_max] at hmax
    rcases List.mem_cons.1 hl' with rfl | h
    · rw [UInt32.le_iff_toNat_le]
      omega
    · rcases List.mem_cons.1 h with rfl | h
      · rw [UInt32.le_iff_toNat_le]
        omega
      · exact ih (max least l) l' (List.mem_cons_of_mem _ h)

/-- What closes a block finds the greatest line in it. -/
lemma isHighest_highestOf {fs : List (Frame τ)} (h : fs ≠ []) :
    IsHighest (highestOf 0 fs) (linesOf fs) := by
  rw [highestOf_eq_foldl]
  have hle := le_foldl_max (linesOf fs) 0
  refine ⟨?_, fun l hl => hle l (List.mem_cons_of_mem _ hl)⟩
  rcases foldl_max_mem (linesOf fs) 0 with hzero | hmem
  · -- no line exceeds zero, so that of the first frame is zero
    cases fs with
    | nil => exact absurd rfl h
    | cons f fs =>
      have hf : f.line ∈ linesOf (f :: fs) := by
        cases f <;> exact List.mem_cons_self ..
      have := hle f.line (List.mem_cons_of_mem _ hf)
      rw [hzero, UInt32.le_iff_toNat_le] at this
      have heq : f.line = 0 := UInt32.toNat_inj.1 (Nat.le_zero.1 this)
      rw [hzero, ← heq]
      exact hf
  · exact hmem

lemma toNat_lineAfter (l : UInt32) : (lineAfter l).toNat = min (l.toNat + 1) (UInt32.size - 1) := by
  rw [lineAfter, UInt32.toNat_ofNat']
  apply Nat.mod_eq_of_lt
  have hsize : 0 < UInt32.size := by decide
  show _ < UInt32.size
  omega

/-! ## Times -/

/-- The clock behind the frames of a forest. -/
def clockBehind (clock : Clock) (fs : List (Frame σ)) : Clock :=
  (stampedOnto clock [] fs).2

lemma stampedOnto_eq (clock : Clock) (done : List (Frame UInt64)) (fs : List (Frame σ)) :
    stampedOnto clock done fs = (done.reverse ++ stampAll clock fs, clockBehind clock fs) := by
  unfold stampAll clockBehind
  induction fs generalizing clock done with
  | nil => simp [stampedOnto]
  | cons f fs ih =>
    rw [stampedOnto, stampedOnto]
    simp only
    rw [ih, ih (stamped clock f).2 [_]]
    simp

section

variable (clock : Clock) (line : UInt32) (stamp : σ) (action : Action) (name : String)
  (params : List String) (body fs gs : List (Frame σ))

@[simp] lemma stampAll_nil : stampAll clock ([] : List (Frame σ)) = [] := rfl

@[simp] lemma stampAll_plain :
    stampAll clock (.plain line stamp action :: fs) =
      .plain line clock.now.1 action :: stampAll clock.now.2 fs := by
  rw [stampAll, stampedOnto, stamped]
  simp only [stampedOnto_eq]
  rfl

@[simp] lemma stampAll_define :
    stampAll clock (.define line stamp name params body :: fs) =
      .define line clock.now.1 name params (stampAll clock.now.2 body) ::
        stampAll (clockBehind clock.now.2 body) fs := by
  rw [stampAll, stampedOnto, stamped]
  simp only [stampedOnto_eq]
  rfl

lemma stampAll_cons (f : Frame σ) :
    stampAll clock (f :: fs) = (stamped clock f).1 :: stampAll (stamped clock f).2 fs := by
  rw [stampAll, stampedOnto]
  simp only [stampedOnto_eq]
  rfl

lemma clockBehind_cons (f : Frame σ) :
    clockBehind clock (f :: fs) = clockBehind (stamped clock f).2 fs := by
  rw [clockBehind, stampedOnto]
  simp only [stampedOnto_eq]

@[simp] lemma clockBehind_plain :
    clockBehind clock (.plain line stamp action :: fs) = clockBehind clock.now.2 fs := by
  rw [clockBehind_cons, stamped]

@[simp] lemma clockBehind_define :
    clockBehind clock (.define line stamp name params body :: fs) =
      clockBehind (clockBehind clock.now.2 body) fs := by
  rw [clockBehind_cons, stamped]
  rfl

lemma stampAll_append :
    stampAll clock (fs ++ gs) = stampAll clock fs ++ stampAll (clockBehind clock fs) gs := by
  induction fs generalizing clock with
  | nil => rfl
  | cons f fs ih =>
    rw [List.cons_append, stampAll_cons, stampAll_cons, ih, clockBehind_cons, List.cons_append]

end

/-- Times do not change what is done. -/
@[simp] lemma actionsOf_stampAll (clock : Clock) (fs : List (Frame σ)) :
    actionsOf (stampAll clock fs) = actionsOf fs := by
  induction fs using forest_induction generalizing clock with
  | nil => rfl
  | plain line stamp action fs ih => simp [ih]
  | define line stamp name params body fs ihbody ih => simp [ihbody, ih]

@[simp] lemma linesOf_stampAll (clock : Clock) (fs : List (Frame σ)) :
    linesOf (stampAll clock fs) = linesOf fs := by
  induction fs using forest_induction generalizing clock with
  | nil => rfl
  | plain l stamp action fs ih => simpa [linesOf] using ⟨rfl, ih _⟩
  | define l stamp name params body fs ihbody ih =>
    have hbody := ihbody clock.now.2
    have hfs := ih (clockBehind clock.now.2 body)
    simp only [linesOf] at hbody hfs
    simp [linesOf, hbody, hfs, Frame.line]

end Frame

/-! ## Printed values -/

/-- What an action prints. -/
def Action.printed? : Action → Option String
  | print _ _ literal => some literal.display
  | _ => none

namespace Frame

variable {τ : Type}

lemma printsOfOnto_eq (done : List String) (fs : List (Frame τ)) :
    printsOfOnto done fs = ((actionsOf fs).filterMap Action.printed?).reverse ++ done := by
  induction fs using forest_induction generalizing done with
  | nil => rfl
  | plain line stamp action fs ih =>
    rw [printsOfOnto, ih, actionsOf_plain]
    cases action with
    | print isLiteral name literal => simp [printsOnto, Action.printed?]
    | _ =>
      rw [printsOnto, List.filterMap_cons_none rfl]
      nofun
  | define line stamp name params body fs ihbody ih =>
    rw [printsOfOnto, printsOnto, ih, ihbody, actionsOf_define]
    simp

/-- What a forest prints is told by what its frames do. -/
lemma prints_eq (fs : List (Frame τ)) : prints fs = (actionsOf fs).filterMap Action.printed? := by
  rw [prints, printsOfOnto_eq, List.append_nil, List.reverse_reverse]

end Frame

end Playback
