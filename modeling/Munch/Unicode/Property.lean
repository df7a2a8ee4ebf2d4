/-
The sets of code points that are asked for by the names of properties.

A property that a character has or has not is asked for by its name. A property with values is asked for with a value; the
general category and the script are also asked for by the value alone.
-/
import Munch.Unicode.Age
import Munch.Unicode.PropertyName
import Munch.Unicode.Script
import Munch.Unicode.Segmentation

namespace Munch.Unicode

/-- what is not known about a property -/
inductive Missing where
  | property
  | value
  deriving DecidableEq, Repr

namespace Property

/-- the names of general categories that are names of properties too, and stand for the category when they are alone -/
def categoryFirst : List String :=
  ["cf", "lc", "sc"]

/-- the set of a name alone -/
def named (name : String) : Except Missing RangeSet :=
  if propertyNames.contains name && !categoryFirst.contains name then
    (NamedSet.find? flags name).elim (.error .property) .ok
  else
    match NamedSet.find? categories name <|> NamedSet.find? scripts name with
    | none => .error .property
    | some set => if set.ranges.isEmpty then .error .value else .ok set

/-- the set of a value by its name, if the property has such a value and there are characters with it -/
def value? (property name : String) : Option RangeSet :=
  (find? property).filter fun set => !set.ranges.isEmpty
where
  find? : String → Option RangeSet
    | "age" => age? name
    | "gc" | "generalcategory" => NamedSet.find? categories name
    | "gcb" | "graphemeclusterbreak" => NamedSet.find? graphemeBreaks name
    | "sb" | "sentencebreak" => NamedSet.find? sentenceBreaks name
    | "sc" | "script" => NamedSet.find? scripts name
    | "scx" | "scriptextensions" => NamedSet.find? scriptExtensions name
    | "wb" | "wordbreak" => NamedSet.find? wordBreaks name
    | _ => none

/-- the set of a property with a value -/
def valued (property name : String) : Except Missing RangeSet :=
  if propertyNames.contains property then (value? property name).elim (.error .value) .ok else .error .property

end Property

end Munch.Unicode
