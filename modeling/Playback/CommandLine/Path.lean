/-!
# Paths

The name of the file that a path leads to, and its extension. Parts of a path stand between
slashes.
-/

namespace Playback.Path

/-- The parts between the separators. -/
def split (separator : Char) : List Char → List (List Char)
  | [] => [[]]
  | c :: cs =>
    match split separator cs with
    | [] => [[c]]
    | part :: parts => if c = separator then [] :: part :: parts else (c :: part) :: parts

/-- The name of the file that a path leads to. Empty parts and parts that stay where they are do not
count, and a path that ends by going up has none. -/
def fileName? (path : List Char) : Option (List Char) :=
  let parts := (split '/' path).filter fun part => part ≠ [] ∧ part ≠ ['.']
  match parts.getLast? with
  | some part => if part = ['.', '.'] then none else some part
  | none => none

/-- What follows the last point of a file's name, unless nothing precedes that point. -/
def extension? (path : List Char) : Option (List Char) := do
  let name ← fileName? path
  match (split '.' name).reverse with
  | [] | [_] | [_, []] => none
  | last :: _ => some last

/-- The path ends in `.json`, in any case. -/
def isJson (path : String) : Bool :=
  match extension? path.toList with
  | some e => e.map Char.toLower = ['j', 's', 'o', 'n']
  | none => false

/-- The point in front of a hidden file's name begins no extension. -/
example : isJson "a/b.JSON/." = true ∧ isJson ".json" = false ∧ isJson "a.json/.." = false := by
  decide +kernel

end Playback.Path
