/-
This file holds descriptors: named types of JSON values. A scalar is a predicate
with an optional normalizer in front of it, a record is an ordered table of field
types, a variant is one alternative of a union under its own name, and a sum is the
union itself as a type. A descriptor has an identity besides its content, because
two descriptors that were made separately stay different even when nothing else
tells them apart.
-/

import JsonShape.Json.Basic

namespace JsonShape

/-! ### Identities -/

/-- What makes a descriptor itself: the standard ones are known by name, all others by the turn
in which they were made. -/
inductive Identity where
  | standard (name : String)
  | made (turn : Nat)
deriving DecidableEq

/-- The turns that are still to be given out. -/
structure Supply where
  next : Nat

namespace Supply

/-- The supply of which nothing has been taken. -/
def full : Supply := ⟨0⟩

/-- An identity that was never given out before, and what remains. -/
def draw (supply : Supply) : Identity × Supply := (.made supply.next, ⟨supply.next + 1⟩)

end Supply

/-! ### Descriptors -/

/-- A test that a value passes or fails. -/
abbrev Predicate := Json → Bool

/-- What is done to a raw value before the test. -/
abbrev Normalizer := Json → Json

/-- A named type of JSON values. A scalar may carry the schema it is described by. -/
inductive Descriptor where
  | scalar (identity : Identity) (name : String) (predicate : Predicate)
      (normalizer : Option Normalizer) (schema : Option Json)
  | record (identity : Identity) (name : String) (fields : List (String × Descriptor))
  | variant (identity : Identity) (name : String) (payload : Descriptor)
  | sum (identity : Identity) (name : String) (variants : List (String × Descriptor))

namespace Descriptor

/-- What makes the descriptor itself. -/
def identity : Descriptor → Identity
  | scalar identity .. => identity
  | record identity .. => identity
  | variant identity .. => identity
  | sum identity .. => identity

/-- The name of the type. -/
def name : Descriptor → String
  | scalar _ name .. => name
  | record _ name .. => name
  | variant _ name .. => name
  | sum _ name .. => name

/-- Whether two descriptors are one and the same. -/
def same (first second : Descriptor) : Bool := decide (first.identity = second.identity)

/-- The variants of a sum; other descriptors have none. -/
def variants : Descriptor → List (String × Descriptor)
  | sum _ _ variants => variants
  | _ => []

end Descriptor

/-! ### Tagged values -/

/-- A value that has passed construction, with the descriptor it was constructed through. -/
structure Instance where
  descriptor : Descriptor
  value : Json

/-- What can be inspected: a raw value, or an instance with its tag. -/
inductive Subject where
  | raw (value : Json)
  | tagged (made : Instance)

namespace Subject

/-- The plain value. -/
def value : Subject → Json
  | raw value => value
  | tagged made => made.value

/-- The identity of the tag, if there is one. -/
def tag? : Subject → Option Identity
  | raw _ => none
  | tagged made => some made.descriptor.identity

end Subject

end JsonShape
