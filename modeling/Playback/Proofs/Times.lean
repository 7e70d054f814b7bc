import Playback.Proofs.Forest
import Playback.Proofs.Stages
import Mathlib.Order.Bounds.Basic

/-!
# Times of frames

The frames of a trace, each definition before the frames of its body, show the readings of the clock
one after another: none is skipped, and none is shown twice. `Clock.take` lists the readings, and
`Clock.floor` is what no later reading falls below. The emitter adds a definition behind the frames of its
body, but has read its time before theirs (`Emitter.record_define`).

Main statement: the times of a trace are start, start and step, start and two steps, ... on a clock that
counts, and the greatest readings so far on a wall clock; in both cases no time is before an earlier one
(`Program.frame_times`).
-/

namespace Playback

namespace Clock

/-- The time that no reading from here on is before. -/
def floor : Clock → UInt64
  | steps next _ => next
  | wall last _ _ => last

lemma take_succ (clock : Clock) (n : Nat) :
    clock.take (n + 1) = (clock.now.1 :: (clock.now.2.take n).1, (clock.now.2.take n).2) := rfl

lemma take_add (clock : Clock) (m n : Nat) :
    clock.take (m + n) =
      ((clock.take m).1 ++ ((clock.take m).2.take n).1, ((clock.take m).2.take n).2) := by
  induction m generalizing clock with
  | zero => simp [take]
  | succ m ih =>
    rw [Nat.succ_add, take_succ, take_succ, ih]
    rfl

lemma length_take (clock : Clock) (n : Nat) : (clock.take n).1.length = n := by
  induction n generalizing clock with
  | zero => rfl
  | succ n ih => rw [take_succ, List.length_cons, ih]

lemma toNat_saturatingAdd (a b : UInt64) :
    (saturatingAdd a b).toNat = min (a.toNat + b.toNat) (UInt64.size - 1) := by
  rw [saturatingAdd, UInt64.toNat_ofNat']
  apply Nat.mod_eq_of_lt
  have hsize : 0 < UInt64.size := by decide
  show _ < UInt64.size
  omega

lemma isGreatest_max (a b : UInt64) : IsGreatest {a, b} (max a b) := by
  show IsGreatest {a, b} (if a ≤ b then b else a)
  split
  · rename_i le
    refine ⟨.inr rfl, ?_⟩
    rintro w (rfl | rfl)
    · exact le
    · exact UInt64.le_refl _
  · rename_i lt
    refine ⟨.inl rfl, ?_⟩
    rintro w (rfl | rfl)
    · exact UInt64.le_refl _
    · exact UInt64.le_of_lt (UInt64.not_le.1 lt)

/-! ## One reading -/

lemma floor_le_now (clock : Clock) : clock.floor ≤ clock.now.1 := by
  cases clock with
  | steps next step => exact UInt64.le_refl _
  | wall last count readings => exact (isGreatest_max ..).2 (.inl rfl)

lemma now_le_floor (clock : Clock) : clock.now.1 ≤ clock.now.2.floor := by
  cases clock with
  | steps next step =>
    show next ≤ saturatingAdd next step
    have bound := next.toNat_lt
    have hsize : UInt64.size = 18446744073709551616 := rfl
    rw [UInt64.le_iff_toNat_le, toNat_saturatingAdd]
    omega
  | wall last count readings => exact UInt64.le_refl _

/-! ## Readings one after another -/

lemma floor_le_take {clock : Clock} {n : Nat} {time : UInt64} (h : time ∈ (clock.take n).1) :
    clock.floor ≤ time := by
  induction n generalizing clock with
  | zero => cases h
  | succ n ih =>
    rcases List.mem_cons.1 h with rfl | later
    · exact clock.floor_le_now
    · have ahead := UInt64.le_trans clock.floor_le_now clock.now_le_floor
      exact UInt64.le_trans ahead (ih later)

/-- No reading is before an earlier one. -/
lemma pairwise_take (clock : Clock) (n : Nat) : (clock.take n).1.Pairwise (· ≤ ·) := by
  induction n generalizing clock with
  | zero => exact .nil
  | succ n ih =>
    refine .cons (fun time later => ?_) (ih clock.now.2)
    exact UInt64.le_trans clock.now_le_floor (floor_le_take later)

lemma take_steps {next step time : UInt64} {n i : Nat}
    (h : ((steps next step).take n).1[i]? = some time) :
    time.toNat = min (next.toNat + i * step.toNat) (UInt64.size - 1) := by
  induction n generalizing next i with
  | zero => cases h
  | succ n ih =>
    cases i with
    | zero =>
      obtain rfl : next = time := Option.some.inj h
      have bound := next.toNat_lt
      have hsize : UInt64.size = 18446744073709551616 := rfl
      omega
    | succ i =>
      -- the readings behind the first one are those of a clock that is one step ahead
      have hstep := ih h
      rw [toNat_saturatingAdd] at hstep
      rw [hstep, Nat.succ_mul]
      omega

/-- A reading of a wall clock is the greatest of what it showed before and has read since. -/
lemma take_wall {last time : UInt64} {count n i : Nat} {readings : Nat → UInt64}
    (h : ((wall last count readings).take n).1[i]? = some time) :
    IsGreatest (insert last ((fun j => readings (count + j)) '' Set.Iic i)) time := by
  induction n generalizing last count i with
  | zero => cases h
  | succ n ih =>
    have hmax := isGreatest_max last (readings count)
    cases i with
    | zero =>
      obtain rfl : max last (readings count) = time := Option.some.inj h
      refine ⟨?_, ?_⟩
      · rcases hmax.1 with heq | heq
        · exact .inl heq
        · exact .inr ⟨0, Nat.le_refl 0, heq.symm⟩
      · rintro w (rfl | ⟨j, hj, rfl⟩)
        · exact hmax.2 (.inl rfl)
        · obtain rfl := Nat.le_zero.1 hj
          exact hmax.2 (.inr rfl)
    | succ i =>
      -- the clock behind the first reading has shown the greater of the two
      obtain ⟨mem, upper⟩ := ih h
      have hfirst : max last (readings count) ≤ time := upper (.inl rfl)
      refine ⟨?_, ?_⟩
      · rcases mem with rfl | ⟨j, hj, rfl⟩
        · rcases hmax.1 with heq | heq
          · exact .inl heq
          · exact .inr ⟨0, Nat.zero_le _, heq.symm⟩
        · exact .inr ⟨j + 1, Nat.succ_le_succ hj, congrArg readings (by omega)⟩
      · rintro w (rfl | ⟨j, hj, rfl⟩)
        · exact UInt64.le_trans (hmax.2 (.inl rfl)) hfirst
        · cases j with
          | zero => exact UInt64.le_trans (hmax.2 (.inr rfl)) hfirst
          | succ j =>
            exact upper (.inr ⟨j, Nat.le_of_succ_le_succ hj, congrArg readings (by omega)⟩)

end Clock

/-! ## Forests -/

namespace Frame

variable {σ τ : Type}

/-- Giving a forest its times takes one reading of the clock for each of its frames. -/
lemma take_flatOf (clock : Clock) (fs : List (Frame σ)) :
    clock.take (flatOf fs).length =
      ((flatOf (stampAll clock fs)).map stamp, clockBehind clock fs) := by
  induction fs using forest_induction generalizing clock with
  | nil => rfl
  | plain line time action fs ih =>
    rw [flatOf_plain, List.length_cons, Clock.take_succ, ih, stampAll_plain, flatOf_plain, List.map_cons,
      clockBehind_plain]
    rfl
  | define line time name params body fs ihbody ih =>
    rw [flatOf_define, List.length_cons, List.length_append, Clock.take_succ, Clock.take_add,
      ihbody, ih, stampAll_define, flatOf_define, List.map_cons, List.map_append,
      clockBehind_define]
    rfl

lemma sublist_flatOf (fs : List (Frame τ)) : fs.Sublist (flatOf fs) := by
  induction fs using forest_induction with
  | nil => exact .slnil
  | plain line time action fs ih => exact ih.cons_cons _
  | define line time name params body fs _ ih =>
    rw [flatOf_define]
    exact (ih.trans (List.sublist_append_right ..)).cons_cons _

lemma sublist_of_mem_bodiesOf {fs body : List (Frame τ)} (h : body ∈ bodiesOf fs) :
    body.Sublist (flatOf fs) := by
  induction fs using forest_induction with
  | nil => cases h
  | plain line time action fs ih => exact (ih h).cons _
  | define line time name params inner fs ihinner ih =>
    rw [flatOf_define]
    rw [bodiesOf_define, List.mem_cons, List.mem_append] at h
    refine .cons _ ?_
    rcases h with rfl | h | h
    · exact (sublist_flatOf _).trans (List.sublist_append_left ..)
    · exact (ihinner h).trans (List.sublist_append_left ..)
    · exact (ih h).trans (List.sublist_append_right ..)

/-- Every list of frames in a forest is in the order of the whole. -/
lemma sublist_of_mem_lists {fs gs : List (Frame τ)} (h : gs ∈ lists fs) :
    gs.Sublist (flatOf fs) := by
  rcases List.mem_cons.1 h with rfl | hbody
  · exact sublist_flatOf gs
  · exact sublist_of_mem_bodiesOf hbody

end Frame

namespace Program

variable {p : Program} {budget : Budget} {clock : Clock} {t : Trace}

/-- The times of a trace are the readings of its clock. -/
lemma map_stamp_trace (h : p.trace budget clock = .ok t) :
    (Frame.flatOf t.frames).map Frame.stamp = (clock.take (Frame.flatOf t.frames).length).1 := by
  obtain ⟨r, -, rfl⟩ := trace_eq_ok_iff.1 h
  have htake := congrArg Prod.fst (Frame.take_flatOf clock r.frames)
  have hlength := congrArg List.length htake
  rw [Clock.length_take, List.length_map] at hlength
  rw [← hlength, htake]

lemma take_of_getElem? (h : p.trace budget clock = .ok t) {i : Nat} {f : Frame UInt64}
    (hf : (Frame.flatOf t.frames)[i]? = some f) :
    (clock.take (Frame.flatOf t.frames).length).1[i]? = some f.stamp := by
  rw [← map_stamp_trace h, List.getElem?_map, hf]
  rfl

/-- On a clock that counts, the times of the frames in their order grow by one step each, up to the
greatest time. On a wall clock, each is the greatest reading so far. No time is before an earlier one,
neither in the whole trace nor in any list of frames. -/
theorem frame_times (p : Program) (budget : Budget) :
    (∀ start step t, p.trace budget (.steps start step) = .ok t →
      ∀ i f, (Frame.flatOf t.frames)[i]? = some f →
        f.stamp.toNat = min (start.toNat + i * step.toNat) (UInt64.size - 1)) ∧
    (∀ readings t, p.trace budget (.wall 0 0 readings) = .ok t →
      ∀ i f, (Frame.flatOf t.frames)[i]? = some f →
        IsGreatest (readings '' Set.Iic i) f.stamp) ∧
    ∀ clock t, p.trace budget clock = .ok t →
      (Frame.flatOf t.frames).Pairwise (fun f g => f.stamp ≤ g.stamp) ∧
      ∀ fs ∈ Frame.lists t.frames, fs.Pairwise fun f g => f.stamp ≤ g.stamp := by
  refine ⟨fun start step t h i f hf => ?_, fun readings t h i f hf => ?_, fun clock t h => ?_⟩
  · exact Clock.take_steps (take_of_getElem? h hf)
  · obtain ⟨mem, upper⟩ := Clock.take_wall (take_of_getElem? h hf)
    simp only [Nat.zero_add] at mem upper
    refine ⟨?_, fun w hw => upper (.inr hw)⟩
    rcases mem with hzero | mem
    · -- where the time is zero, so is the first reading
      have first := upper (.inr ⟨0, Nat.zero_le i, rfl⟩)
      rw [hzero] at first ⊢
      exact ⟨0, Nat.zero_le i, UInt64.le_antisymm first (UInt64.zero_le)⟩
    · exact mem
  · have whole : (Frame.flatOf t.frames).Pairwise fun f g => f.stamp ≤ g.stamp := by
      rw [← List.pairwise_map, map_stamp_trace h]
      exact clock.pairwise_take _
    exact ⟨whole, fun fs hfs => whole.sublist (Frame.sublist_of_mem_lists hfs)⟩

end Program

/-- A function with two frames in its body, and a frame behind it. -/
def printsInside : Program where
  statements := [
    .function (some 1) "f" [] [
      .declaration (some 2) "x" (.boolean none true),
      .print (some 3) (.identifier none "x")],
    .ret (some 4) (.identifier none "x")]

/-- The clock comes to its end inside the function, and a wall clock goes back there. -/
theorem frame_times_printsInside :
    (∃ t f, printsInside.trace (.limit 5) (.steps 18446744073709551612 2) = .ok t ∧
      (Frame.flatOf t.frames)[2]? = some f ∧
      f.stamp.toNat = min (18446744073709551612 + 2 * 2) (UInt64.size - 1)) ∧
    ∃ t f, printsInside.trace (.limit 5) (.wall 0 0 fun i => if i = 1 then 5 else 7) = .ok t ∧
      (Frame.flatOf t.frames)[1]? = some f ∧
      IsGreatest ((fun i => if i = 1 then 5 else 7) '' Set.Iic 1) f.stamp ∧
      (Frame.flatOf t.frames).Pairwise fun f g => f.stamp ≤ g.stamp := by
  obtain ⟨steps, wall, ordered⟩ := Program.frame_times printsInside (.limit 5)
  refine ⟨⟨_, _, rfl, rfl, ?_⟩, _, _, rfl, rfl, ?_, ?_⟩
  · exact steps _ _ _ rfl 2 _ rfl
  · exact wall _ _ rfl 1 _ rfl
  · exact (ordered _ _ rfl).1

end Playback
