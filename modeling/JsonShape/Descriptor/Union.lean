/-
This file holds unions: a sum together with its variants, under which values are
constructed and dispatched. An instance that was built through a variant of the
union goes to that variant; every other value goes to the first variant that accepts
it.
-/

import JsonShape.Descriptor.Construction

namespace JsonShape

/-! ### Errors of dispatch -/

/-- Why a value could not be routed. -/
inductive DispatchError where
  | missingHandler (union variant : String)
  | noVariantMatched (union : String) (value : Json)
  | unknownVariant (union variant : String)

/-- The wording of an error of dispatch. -/
def DispatchError.message : DispatchError → String
  | missingHandler _ variant => "`" ++ variant ++ "` is not in the object!"
  | noVariantMatched union value => "no variant of " ++ union ++ " accepts " ++ value.text
  | unknownVariant union variant => union ++ " has no variant named `" ++ variant ++ "`"

/-! ### Unions -/

/-- A named table of variants. Every variant is a descriptor of its own. -/
structure Union where
  identity : Identity
  name : String
  variants : List (String × Descriptor)

namespace Union

/-- The union as a type: it accepts what one of its variants accepts. -/
def asType (union : Union) : Descriptor := .sum union.identity union.name union.variants

/-- The variant of that name. -/
def variant? (union : Union) (name : String) : Option Descriptor :=
  Table.find? union.variants name

/-- The names of the variants, in the order of their declaration. -/
def variantNames (union : Union) : List String := Table.keys union.variants

/-- Whether a value is a member of the union. -/
def is (union : Union) (subject : Subject) : Bool := union.asType.is subject

/-- The names of all variants that accept the value. -/
def matching (union : Union) (value : Json) : List String :=
  Table.keys (union.variants.filter fun variant => variant.2.accepts value)

/-- The name of the variant through which an instance of that tag was built. -/
def variantOfTag? (union : Union) (tag : Identity) : Option String :=
  (union.variants.find? fun variant => decide (variant.2.identity = tag)).map Prod.fst

/-- The name of the first variant that accepts the value. -/
def firstAccepting? (union : Union) (value : Json) : Option String :=
  (union.variants.find? fun variant => variant.2.accepts value).map Prod.fst

/-- The variant a value is dispatched to. -/
def variantOf? (union : Union) (subject : Subject) : Option String :=
  match subject.tag?.bind union.variantOfTag? with
  | some name => some name
  | none => union.firstAccepting? subject.value

/-- Applies the handler of the variant a value is dispatched to. -/
def case {Result : Type} (union : Union) (subject : Subject)
    (handlers : Table (Json → Result)) : Except DispatchError Result :=
  match union.variantOf? subject with
  | none => .error (.noVariantMatched union.name subject.value)
  | some variant =>
      match Table.find? handlers variant with
      | none => .error (.missingHandler union.name variant)
      | some handler => .ok (handler subject.value)

/-- Constructs an instance through the variant of that name. -/
def construct (union : Union) (variant : String) (raw : Json) :
    Except DispatchError (Traced (Except Rejection Instance)) :=
  match union.variant? variant with
  | none => .error (.unknownVariant union.name variant)
  | some type => .ok (type.construct raw)

end Union

end JsonShape
