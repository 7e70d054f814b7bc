/-!
# Searching texts

Whether one text is a part of another.
-/

namespace Playback.Text

/-- The part is found somewhere in the text. -/
def occurs (part : List Char) : List Char → Bool
  | [] => part.isEmpty
  | c :: cs => part.isPrefixOf (c :: cs) || occurs part cs

end Playback.Text
