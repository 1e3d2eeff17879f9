/-
This file holds the two standard unions, `Maybe` for a value that may be absent and
`Result` for a success or a failure, and the direct ways to build their instances.
`Maybe.nothing` and `Result.err` cannot fail, because the normalizers of their payloads turn
every input into a value that the payload accepts.
-/

import JsonShape.Descriptor.Standard
import JsonShape.Descriptor.Union

namespace JsonShape

/-- A standard variant of a standard union. -/
def standardVariant (union name : String) (payload : Descriptor) : Descriptor :=
  .variant (.standard (union ++ "." ++ name)) name payload

/-- An instance of a descriptor whose payload is known to be accepted. -/
def tagged (descriptor : Descriptor) (value : Json) : Traced Instance :=
  ⟨[⟨descriptor.name, value⟩], ⟨descriptor, value⟩⟩

/-! ### Values that may be absent -/

namespace Maybe

/-- The variant of a value that is there. -/
def justType : Descriptor := standardVariant "Maybe" "Just" Standard.any

/-- The variant of an absent value. -/
def nothingType : Descriptor := standardVariant "Maybe" "Nothing" Standard.nothing

/-- The union of the two. -/
def union : Union where
  identity := .standard "Maybe"
  name := "Maybe"
  variants := [("Just", justType), ("Nothing", nothingType)]

/-- A value that is there; fails for absence. -/
def just (value : Json) : Traced (Except Rejection Instance) := justType.construct value

/-- The absent value. -/
def nothing : Traced Instance := tagged nothingType .null

end Maybe

/-! ### Successes and failures -/

namespace Result

/-- The variant of a success. -/
def okType : Descriptor := standardVariant "Result" "Ok" Standard.success

/-- The variant of a failure. -/
def errType : Descriptor := standardVariant "Result" "Err" Standard.error

/-- The union of the two. -/
def union : Union where
  identity := .standard "Result"
  name := "Result"
  variants := [("Ok", okType), ("Err", errType)]

/-- A success; fails for absence. -/
def ok (value : Json) : Traced (Except Rejection Instance) := okType.construct value

/-- A failure with a message. -/
def err (error : Json) : Traced Instance := tagged errType (failurePayload error)

/-- The instance of an outcome: a success, or a failure with the message. A success without a value
becomes a failure that carries the message of its rejection. -/
def ofExcept (outcome : Except String Json) : Traced Instance :=
  match outcome with
  | .error message => err (.string message)
  | .ok value =>
      let built := ok value
      match built.outcome with
      | .ok made => ⟨built.lines, made⟩
      | .error rejection =>
          let failed := err (.string rejection.message)
          ⟨built.lines ++ failed.lines, failed.outcome⟩

end Result

end JsonShape
