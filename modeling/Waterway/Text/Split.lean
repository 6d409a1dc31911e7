/-!
# Texts in parts

## Main definitions

- `splitAt` — the parts of a text between separators
-/

namespace Waterway.Text

/-- The parts of a text between separators; there is one more of them than of separators. -/
def splitAt (separator : Char) : List Char → List (List Char)
  | [] => [[]]
  | c :: cs =>
    match splitAt separator cs with
    | [] => [[c]]
    | part :: parts => if c = separator then [] :: part :: parts else (c :: part) :: parts

end Waterway.Text
