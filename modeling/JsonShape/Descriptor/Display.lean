/-
This file gives the texts by which descriptors, unions and instances are shown: a
short one for people, and a full one with quoted names that also tells the shape.
-/

import JsonShape.Descriptor.Union
import JsonShape.Text.Quoted

namespace JsonShape

namespace Descriptor

/-- The word for the shape of a descriptor. -/
def shape : Descriptor → String
  | scalar .. => "scalar"
  | record .. => "data"
  | variant .. => "variant"
  | sum .. => "union"

/-- The name of a type as a test of one argument. -/
def display (descriptor : Descriptor) : String := descriptor.name ++ "(x)"

/-- The name and the shape of a type. -/
def details (descriptor : Descriptor) : String :=
  "Type \x7b name: " ++ quoted descriptor.name ++ ", shape: " ++ quoted descriptor.shape ++ " \x7d"

end Descriptor

namespace Union

/-- The name of a union and its alternatives. -/
def display (union : Union) : String :=
  union.name ++ "(" ++ " | ".intercalate union.variantNames ++ ")"

/-- The name of a union and the names of its variants. -/
def details (union : Union) : String :=
  "Union \x7b name: " ++ quoted union.name ++ ", variants: [" ++
    ", ".intercalate (union.variantNames.map quoted) ++ "] \x7d"

end Union

namespace Instance

/-- The value alone. -/
def display (made : Instance) : String := made.value.text

/-- The value behind the name of its type. -/
def details (made : Instance) : String :=
  made.descriptor.name ++ "(" ++ made.value.text ++ ")"

/-- Whether the instance holds the value. -/
def holds (made : Instance) (value : Json) : Bool := made.value.equal value

end Instance

end JsonShape
