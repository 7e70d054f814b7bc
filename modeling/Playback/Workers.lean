/-!
# Workers

Tasks that are shared among workers. Every task has a place for its result, and whoever finishes a
task puts the result there. So the results stand in the order of the tasks, in whatever order these
are finished (`Workers.map_eq_map`).
-/

namespace Playback

/-- Workers that share tasks among them. -/
structure Workers where
  /-- The places of so many tasks, in the order in which the tasks are finished. There is no order
  when no workers can be had. -/
  order? : Nat → Option (List Nat)
  /-- Every task is finished, and only once. -/
  perm : ∀ {count order}, order? count = some order → order.Perm (List.range count)

namespace Workers

variable {α β : Type}

/-- The task in place `i` is finished. -/
def finish (work : α → β) (tasks : List α) (results : List (Option β)) (i : Nat) :
    List (Option β) :=
  results.set i (tasks[i]?.map work)

/-- The results of tasks. Without workers, the tasks are done one after another. -/
def map (workers : Workers) (work : α → β) (tasks : List α) : List β :=
  match workers.order? tasks.length with
  | none => tasks.map work
  | some order =>
    (order.foldl (finish work tasks) (List.replicate tasks.length none)).filterMap id

/-- Workers that finish every task before the next one. -/
def inOrder : Workers where
  order? count := some (List.range count)
  perm h := Option.some.inj h ▸ .refl _

/-! ## Results -/

/-- The places of these tasks hold their results, and the others are empty. -/
def Filled (work : α → β) (tasks : List α) (finished : List Nat) (results : List (Option β)) : Prop :=
  results = tasks.mapIdx fun i task => if i ∈ finished then some (work task) else none

variable {work : α → β} {tasks : List α} {finished : List Nat} {results : List (Option β)}

theorem filled_replicate : Filled work tasks [] (List.replicate tasks.length none) := by
  apply List.ext_getElem?
  intro i
  rw [List.getElem?_mapIdx, List.getElem?_replicate]
  by_cases inside : i < tasks.length <;> simp [inside]

theorem Filled.finish (filled : Filled work tasks finished results) (i : Nat) :
    Filled work tasks (i :: finished) (finish work tasks results i) := by
  apply List.ext_getElem?
  intro j
  rw [Workers.finish, filled, List.getElem?_set, List.getElem?_mapIdx, List.getElem?_mapIdx,
    List.length_mapIdx]
  by_cases same : i = j
  · cases same
    by_cases inside : i < tasks.length <;> simp [inside]
  · simp [same, Ne.symm same]

/-- Whichever tasks are finished, and in whatever order, their results stand in their places. -/
theorem Filled.foldl (filled : Filled work tasks finished results) (order : List Nat) :
    Filled work tasks (order.reverse ++ finished)
      (order.foldl (Workers.finish work tasks) results) := by
  induction order generalizing finished results with
  | nil => exact filled
  | cons i order ih =>
    rw [List.foldl_cons, List.reverse_cons, List.append_assoc]
    exact ih (filled.finish i)

theorem Filled.eq_map (filled : Filled work tasks finished results)
    (all : ∀ i < tasks.length, i ∈ finished) : results = tasks.map (some ∘ work) := by
  rw [filled]
  apply List.ext_getElem?
  intro i
  rw [List.getElem?_mapIdx, List.getElem?_map]
  cases task : tasks[i]? with
  | none => rfl
  | some x =>
    obtain ⟨inside, -⟩ := List.getElem?_eq_some_iff.1 task
    exact congrArg some (if_pos (all i inside))

/-- Workers come to the results that the tasks have one after another. -/
theorem map_eq_map (workers : Workers) (work : α → β) (tasks : List α) :
    workers.map work tasks = tasks.map work := by
  unfold map
  split
  next => rfl
  next order h =>
    have all (i : Nat) (inside : i < tasks.length) : i ∈ order.reverse ++ [] := by
      rw [List.append_nil, List.mem_reverse, (workers.perm h).mem_iff]
      exact List.mem_range.2 inside
    rw [(filled_replicate.foldl order).eq_map all, List.filterMap_map]
    exact congrFun List.filterMap_eq_map tasks

end Workers

end Playback
