import Playback.Fault
import Playback.Value.Basic

/-!
# Stores

The variables of a running program. There is one scope, and setting a variable anew replaces its
value. `get?_set` says what a store answers after a variable is set.
-/

namespace Playback

/-- Variables and their values. -/
structure Store where
  entries : List (String × Value)
deriving DecidableEq, Inhabited

namespace Store

/-- No variable is set. -/
def empty : Store := ⟨[]⟩

/-- The value of a name in a list of entries. -/
def find? (name : String) : List (String × Value) → Option Value
  | [] => none
  | (n, v) :: rest => if n = name then some v else find? name rest

/-- The entries with the value of a name replaced, or added at the end. -/
def replace (name : String) (value : Value) : List (String × Value) → List (String × Value)
  | [] => [(name, value)]
  | (n, v) :: rest => if n = name then (n, value) :: rest else (n, v) :: replace name value rest

/-- The value of a variable. -/
def get? (s : Store) (name : String) : Option Value :=
  find? name s.entries

/-- Sets a variable. -/
def set (s : Store) (name : String) (value : Value) : Store :=
  ⟨replace name value s.entries⟩

/-- The variable is set. -/
def contains (s : Store) (name : String) : Bool :=
  (s.get? name).isSome

/-- The number of variables. -/
def size (s : Store) : Nat :=
  s.entries.length

/-- No variable is set. -/
def isEmpty (s : Store) : Bool :=
  s.entries.isEmpty

/-- Reads a variable that must be set. -/
def read (s : Store) (name : String) : Except Fault Value :=
  match s.get? name with
  | some v => .ok v
  | none => .error (.undeclared name)

theorem find?_replace (entries : List (String × Value)) (name : String) (value : Value)
    (other : String) :
    find? other (replace name value entries) =
      if name = other then some value else find? other entries := by
  induction entries with
  | nil => simp [replace, find?]
  | cons e rest ih =>
    obtain ⟨n, v⟩ := e
    by_cases h : n = name
    · subst h
      by_cases ho : n = other <;> simp [replace, find?, ho]
    · by_cases ho : n = other
      · subst ho
        simp [replace, find?, h, Ne.symm h]
      · simp [replace, find?, h, ho, ih]

@[simp] theorem get?_empty (name : String) : empty.get? name = none := rfl

/-- Setting a variable changes this variable and no other. -/
@[simp] theorem get?_set (s : Store) (name : String) (value : Value) (other : String) :
    (s.set name value).get? other = if name = other then some value else s.get? other :=
  find?_replace s.entries name value other

end Store

end Playback
