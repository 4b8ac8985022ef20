import Chip8Inspector.Text.Marks

/-!
What a reader takes for one character may be several: a letter with the vowel signs around it,
or the two letters of a flag. Such a cluster is never torn apart.
-/

set_option autoImplicit false

namespace Chip8Inspector.Text

/-- Whether the last region letter of a cluster, given from its end, still lacks its partner. -/
def awaitsRegionLetter (reversed : List Char) : Bool :=
  (reversed.takeWhile isRegionLetter).length % 2 == 1

def belongsTo (reversed : List Char) (c : Char) : Bool :=
  extending.contains c || spacingMarks.contains c ||
    (reversed.head?.any leadingMarks.contains) ||
    (isRegionLetter c && awaitsRegionLetter reversed)

/-- The clusters of a text behind the beginning of one, which is given from its end. -/
def clustersBehind (reversed : List Char) : List Char → List (List Char)
  | [] => [reversed.reverse]
  | c :: rest =>
      if belongsTo reversed c then clustersBehind (c :: reversed) rest
      else reversed.reverse :: clustersBehind [c] rest

def clusters : List Char → List (List Char)
  | [] => []
  | c :: rest => clustersBehind [c] rest

end Chip8Inspector.Text
