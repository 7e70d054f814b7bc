import Playback.Proofs.Grammar

/-!
# Lines of closing frames

A closing frame ends a statement of the grammar: `Closes block f` says that the block and the frame
are one, so that the block begins with the frame that opens it, or with the one that sets the counter.
Reading the list backwards, with a stack of what is still open, shows that there is only one such
block right before the frame. An emitter looks at no block, but keeps the highest line of the innermost
open one; that this comes to the same is proved with `Emitter.closeBlock_eq`.

Main statement: in every list of frames of a trace, each closing frame closes exactly one block, and
its line is the one behind the highest of all lines in there (`Program.closing_line`).
-/

namespace Playback

variable {τ : Type}

/-- The block and the frame that closes it are a statement. -/
def Closes (block : List (Frame τ)) (f : Frame τ) : Prop :=
  f.isClosing = true ∧ ∃ flow, Phrase.statement.Derives (fun _ _ => True) flow (block ++ [f])

lemma Closes.of_derives {rule : List UInt32 → UInt32 → Prop} {flow : Flow} {block : List (Frame τ)}
    {f : Frame τ} (h : f.isClosing = true)
    (derives : Phrase.statement.Derives rule flow (block ++ [f])) : Closes block f :=
  ⟨h, flow, derives.mono fun _ _ _ => trivial⟩

/-- Before each closing frame in the list stands a block with the property. -/
def ClosedBy (Q : List (Frame τ) → Frame τ → Prop) (fs : List (Frame τ)) : Prop :=
  ∀ before f after, fs = before ++ f :: after → f.isClosing = true →
    ∃ block, block <:+ before ∧ Q block f

namespace ClosedBy

variable {Q : List (Frame τ) → Frame τ → Prop} {fs gs : List (Frame τ)}

lemma append (first : ClosedBy Q fs) (goes : ClosedBy Q gs) : ClosedBy Q (fs ++ gs) := by
  intro before f after split closing
  rcases append_eq_append_cons split with ⟨after', earlier⟩ | ⟨mid, rfl, later⟩
  · exact first before f after' earlier closing
  · obtain ⟨block, suffix, hQ⟩ := goes mid f after later closing
    exact ⟨block, suffix.trans (List.suffix_append ..), hQ⟩

lemma single {f : Frame τ} (h : f.isClosing = false) : ClosedBy Q [f] := by
  intro before g after split closing
  have mem : g ∈ [f] := split ▸ List.mem_append_right _ (List.mem_cons_self ..)
  rw [List.mem_singleton.1 mem, h] at closing
  cases closing

lemma cons {f : Frame τ} (h : f.isClosing = false) (closed : ClosedBy Q fs) :
    ClosedBy Q (f :: fs) :=
  append (single h) closed

lemma close {f : Frame τ} (closed : ClosedBy Q fs) (h : Q fs f) : ClosedBy Q (fs ++ [f]) := by
  intro before g after split closing
  rcases snoc_eq_append_cons split with ⟨rfl, rfl⟩ | ⟨after', earlier⟩
  · exact ⟨before, List.suffix_refl _, h⟩
  · exact closed before g after' earlier closing

end ClosedBy

/-- In a phrase, each closing frame closes a block, as its line is to say. -/
lemma Phrase.Derives.closedBy {rule : List UInt32 → UInt32 → Prop} {phrase : Phrase} {flow : Flow}
    {fs : List (Frame τ)} (derives : phrase.Derives rule flow fs) :
    ClosedBy (fun block f => Closes block f ∧ rule (Frame.linesOf block) f.line) fs := by
  induction derives with
  | set => exact .single rfl
  | print => exact .single rfl
  | ret => exact .single rfl
  | define => exact .single rfl
  | branch derives closes ih =>
    exact .close (.cons rfl ih) ⟨.of_derives rfl (.branch derives closes), closes⟩
  | loopUntil derives closes ih =>
    exact .close (.cons rfl ih) ⟨.of_derives rfl (.loopUntil derives closes), closes⟩
  | loopFromTo derives closes ih =>
    exact .close (.cons rfl (.cons rfl ih))
      ⟨.of_derives rfl (.loopFromTo derives closes), closes⟩
  | nil =>
    intro before f after split
    simp at split
  | returned _ ih => exact ih
  | next _ _ ih ihgoes => exact .append ih ihgoes
  | stop => exact .single rfl
  | cut _ ih => exact .cons rfl ih
  | again _ _ ih ihgoes => exact .append (.cons rfl ih) ihgoes
  | count _ _ ih ihgoes => exact .append (.cons rfl ih) (.cons rfl ihgoes)

/-! ## Reading backwards -/

/-- What is open where a list of frames is read backwards. -/
inductive Bracket where
  | branch
  | loop
deriving DecidableEq

/-- What is open before the frame, where `stack` is open behind it. Nothing is found any more where
nothing is open. -/
def Frame.unwound : Frame τ → List Bracket → List Bracket
  | _, [] => []
  | plain _ _ .endBranch, stack => .branch :: stack
  | plain _ _ (.endLoop _), stack => .loop :: stack
  -- the check of a branch opens it, that of a round stands inside its loop
  | plain _ _ (.check ..), .branch :: stack => stack
  | plain _ _ (.loopUntil _), _ :: stack => stack
  | plain _ _ (.loopFromTo _), _ :: stack => stack
  | _, stack => stack

/-- What is open before the frames. -/
def Frame.unwind (fs : List (Frame τ)) (stack : List Bracket) : List Bracket :=
  fs.foldr unwound stack

namespace Frame

@[simp] lemma unwind_nil (stack : List Bracket) : unwind ([] : List (Frame τ)) stack = stack := rfl

@[simp] lemma unwind_cons (f : Frame τ) (fs : List (Frame τ)) (stack : List Bracket) :
    unwind (f :: fs) stack = f.unwound (unwind fs stack) := rfl

@[simp] lemma unwind_append (fs gs : List (Frame τ)) (stack : List Bracket) :
    unwind (fs ++ gs) stack = unwind fs (unwind gs stack) :=
  List.foldr_append ..

lemma unwind_empty (fs : List (Frame τ)) : unwind fs [] = [] := by
  induction fs with
  | nil => rfl
  | cons f fs ih => rw [unwind_cons, ih, unwound]

end Frame

/-- Where the phrase may stand: the rounds of a loop are inside it. -/
def Phrase.Inside (b : Bracket) : Phrase → Prop
  | rounds .. => b = .loop
  | _ => True

/-- A phrase closes all it opens. -/
lemma Phrase.Derives.unwind {rule : List UInt32 → UInt32 → Prop} {phrase : Phrase} {flow : Flow}
    {fs : List (Frame τ)} (derives : phrase.Derives rule flow fs) :
    ∀ {b : Bracket} {rest : List Bracket}, phrase.Inside b →
      Frame.unwind fs (b :: rest) = b :: rest := by
  induction derives with
  | set => exact fun _ => rfl
  | print => exact fun _ => rfl
  | ret => exact fun _ => rfl
  | define => exact fun _ => rfl
  | branch _ _ ih =>
    intro b rest _
    rw [Frame.unwind_append]
    show Frame.unwound _ (Frame.unwind _ (.branch :: b :: rest)) = _
    rw [ih trivial]
    rfl
  | loopUntil _ _ ih =>
    intro b rest _
    rw [Frame.unwind_append]
    show Frame.unwound _ (Frame.unwind _ (.loop :: b :: rest)) = _
    rw [ih rfl]
    rfl
  | loopFromTo _ _ ih =>
    intro b rest _
    rw [Frame.unwind_append]
    show Frame.unwound _ (Frame.unwound _ (Frame.unwind _ (.loop :: b :: rest))) = _
    rw [ih rfl]
    rfl
  | nil => exact fun _ => rfl
  | returned _ ih => exact fun _ => ih trivial
  | next _ _ ih ihgoes =>
    intro b rest _
    rw [Frame.unwind_append, ihgoes trivial, ih trivial]
  | stop =>
    rintro _ rest rfl
    rfl
  | cut _ ih =>
    rintro _ rest rfl
    rw [Frame.unwind_cons, ih trivial]
    rfl
  | again _ _ ih ihgoes =>
    rintro _ rest rfl
    rw [Frame.unwind_append, ihgoes rfl, Frame.unwind_cons, ih trivial]
    rfl
  | count _ _ ih ihgoes =>
    rintro _ rest rfl
    rw [Frame.unwind_append]
    show Frame.unwound _ (Frame.unwind _ (Frame.unwound _ (Frame.unwind _ (.loop :: rest)))) = _
    rw [ihgoes rfl]
    show Frame.unwound _ (Frame.unwind _ (.loop :: rest)) = _
    rw [ih trivial]
    rfl

namespace Frame

/-- What is open in the block that the frame closes. -/
def bracket : Frame τ → Bracket
  | plain _ _ .endBranch => .branch
  | _ => .loop

/-- The number of frames before the header of the block that the frame closes. -/
def leadLength : Frame τ → Nat
  | plain _ _ (.endLoop .counting) => 1
  | _ => 0

/-- Nothing that is still open everywhere begins before what is opened. -/
lemma length_le_of_unwind {b : Bracket} {header : Frame τ} {before inner inner' : List (Frame τ)}
    (unwinds : unwind inner [b] = [b]) (unwinds' : unwind inner' [b] = [b])
    (opens : header.unwound [b] = []) (suffix : header :: inner <:+ before)
    (suffix' : inner' <:+ before) : inner'.length ≤ inner.length := by
  refine Nat.not_lt.1 fun longer => ?_
  obtain ⟨mid, rfl⟩ : header :: inner <:+ inner' :=
    List.suffix_of_suffix_length_le suffix suffix' longer
  rw [unwind_append, unwind_cons, unwinds, opens, unwind_empty] at unwinds'
  cases unwinds'

end Frame

/-- A block is open from its end to its header, and not before. -/
lemma Closes.opening {block : List (Frame τ)} {f : Frame τ} (closes : Closes block f) :
    ∃ lead header inner, block = lead ++ header :: inner ∧ lead.length = f.leadLength ∧
      Frame.unwind inner [f.bracket] = [f.bracket] ∧ header.unwound [f.bracket] = [] := by
  obtain ⟨closing, flow, derives⟩ := closes
  generalize split : block ++ [f] = fs at derives
  -- a statement of a single frame has none that closes it
  have many : ∀ {g : Frame τ}, g.isClosing = false → block ++ [f] ≠ [] ++ [g] := by
    intro g h split
    obtain ⟨-, rfl⟩ := List.append_singleton_inj.1 split
    rw [h] at closing
    cases closing
  cases derives with
  | set => exact absurd split (many rfl)
  | print => exact absurd split (many rfl)
  | ret => exact absurd split (many rfl)
  | define => exact absurd split (many rfl)
  | branch derives =>
    obtain ⟨rfl, rfl⟩ := List.append_singleton_inj.1 split
    exact ⟨[], _, _, rfl, rfl, derives.unwind trivial, rfl⟩
  | loopUntil derives =>
    obtain ⟨rfl, rfl⟩ := List.append_singleton_inj.1 split
    exact ⟨[], _, _, rfl, rfl, derives.unwind rfl, rfl⟩
  | loopFromTo derives =>
    obtain ⟨rfl, rfl⟩ := List.append_singleton_inj.1 split
    exact ⟨[_], _, _, rfl, rfl, derives.unwind rfl, rfl⟩

/-- A frame closes at most one of the blocks that end before it. -/
lemma Closes.unique {before block block' : List (Frame τ)} {f : Frame τ}
    (closes : Closes block f) (closes' : Closes block' f) (suffix : block <:+ before)
    (suffix' : block' <:+ before) : block' = block := by
  obtain ⟨lead, header, inner, rfl, hlead, unwinds, opens⟩ := closes.opening
  obtain ⟨lead', header', inner', rfl, hlead', unwinds', opens'⟩ := closes'.opening
  have hsuffix : header :: inner <:+ before := (List.suffix_append ..).trans suffix
  have hsuffix' : header' :: inner' <:+ before := (List.suffix_append ..).trans suffix'
  have le := Frame.length_le_of_unwind unwinds unwinds' opens hsuffix
    ((List.suffix_cons ..).trans hsuffix')
  have le' := Frame.length_le_of_unwind unwinds' unwinds opens' hsuffix'
    ((List.suffix_cons ..).trans hsuffix)
  have length_eq : (lead' ++ header' :: inner').length = (lead ++ header :: inner).length := by
    simp only [List.length_append, List.length_cons]
    omega
  exact (List.suffix_of_suffix_length_le suffix' suffix (Nat.le_of_eq length_eq)).eq_of_length length_eq

/-- In every list of frames of a trace, each closing frame closes exactly one block. Its line is the
one behind the highest line in there, so it is greater than all of them if there is one behind. -/
theorem Program.closing_line {p : Program} {budget : Budget} {clock : Clock} {t : Trace}
    (h : p.trace budget clock = .ok t) : ∀ fs ∈ Frame.lists t.frames, ∀ before f after,
      fs = before ++ f :: after → f.isClosing = true → ∃ block m,
        (block <:+ before ∧ Closes block f) ∧
        (∀ block', block' <:+ before → Closes block' f → block' = block) ∧
        Frame.IsHighest m (Frame.linesOf block) ∧
        f.line.toNat = min (m.toNat + 1) (UInt32.size - 1) ∧
        (m.toNat + 1 < UInt32.size → ∀ g ∈ Frame.flatOf block, g.line < f.line) := by
  intro fs hfs before f after split closing
  obtain ⟨flow, derives⟩ := derives_trace h hfs
  obtain ⟨block, suffix, closes, m, isHighest, line_eq⟩ :=
    derives.closedBy before f after split closing
  refine ⟨block, m, ⟨suffix, closes⟩, fun block' suffix' closes' => ?_, isHighest, line_eq,
    fun bound g hg => ?_⟩
  · exact closes.unique closes' suffix suffix'
  · have le := isHighest.isGreatest g.line (List.mem_map_of_mem hg)
    rw [UInt32.le_iff_toNat_le] at le
    rw [UInt32.lt_iff_toNat_lt]
    omega

/-- A branch whose highest line is that of a frame in the body of a definition. -/
def definesInside : Program where
  statements := [
    .branch (some 5) (.boolean none true) [
      .function (some 9) "f" [] [.declaration (some 20) "x" (.boolean none true)],
      .print (some 2) (.identifier none "x")] none]

/-- The branch of `definesInside` is closed behind the line of the inner frame. -/
theorem closing_line_definesInside :
    ∃ t before f, definesInside.trace (.limit 5) (.steps 0 1) = .ok t ∧
      t.frames ∈ Frame.lists t.frames ∧ t.frames = before ++ f :: [] ∧ f.isClosing = true ∧
      f.line = 21 ∧ ∃ block m, (block <:+ before ∧ Closes block f) ∧
        (∀ block', block' <:+ before → Closes block' f → block' = block) ∧
        Frame.IsHighest m (Frame.linesOf block) ∧
        f.line.toNat = min (m.toNat + 1) (UInt32.size - 1) ∧
        (m.toNat + 1 < UInt32.size → ∀ g ∈ Frame.flatOf block, g.line < f.line) := by
  let before : List (Frame UInt64) := [
    .plain 5 0 (.check "true" true),
    .define 9 1 "f" [] [.plain 20 2 (.set "x" .truth (.truth true))],
    .plain 2 3 (.print false (some "x") (.truth true))]
  let f : Frame UInt64 := .plain 21 4 .endBranch
  have compiles : definesInside.trace (.limit 5) (.steps 0 1) = .ok ⟨before ++ [f]⟩ := rfl
  have mem : before ++ [f] ∈ Frame.lists (before ++ [f]) := List.mem_cons_self ..
  exact ⟨_, before, f, compiles, mem, rfl, rfl, rfl,
    Program.closing_line compiles _ mem before f [] rfl rfl⟩

end Playback
