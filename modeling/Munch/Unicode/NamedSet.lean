/-
Sets of code points that go by names.

A name is written as names are compared: in lower case without blanks, hyphens and underscores, and without `is` in front.
-/
import Munch.Unicode.HexText

namespace Munch.Unicode

/-- a set of code points with all its names -/
structure NamedSet where
  names : List String
  set : RangeSet

/-- the set of the given name -/
def NamedSet.find? (sets : List NamedSet) (name : String) : Option RangeSet :=
  (sets.find? (·.names.contains name)).map NamedSet.set

end Munch.Unicode
