/-!
# Texts within texts

## Main definitions

- `occursIn` — whether some characters stand next to each other in others
-/

namespace Waterway.Text

/-- Whether the characters `part` stand next to each other, in their order, in others. -/
def occursIn (part : List Char) : List Char → Bool
  | [] => part.isEmpty
  | c :: cs => part.isPrefixOf (c :: cs) || occursIn part cs

end Waterway.Text
