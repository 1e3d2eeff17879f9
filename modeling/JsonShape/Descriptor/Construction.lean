/-
This file says which values a descriptor accepts and how it constructs a value from
raw input. Membership (`accepts`) never normalizes. Construction (`check`) passes
every scalar through its normalizer first, rebuilds records from their declared
fields alone, and tests a variant's payload again after building it. A sum keeps a
value that one of its variants already accepts and only prunes it (`settle`);
otherwise the first variant that can construct the input wins.

Each finished field and each finished construction is recorded as a line of the
trace. Lines that were recorded before a failure stay in the trace, also those of
the variants of a sum that were tried in vain.
-/

import JsonShape.Descriptor.Basic
import JsonShape.Descriptor.Rejection

namespace JsonShape

/-! ### The trace -/

/-- A finished construction: the name of the type and the value. -/
structure TraceLine where
  name : String
  value : Json

/-- The text of a line of the trace. The time of day that stands in front of a printed line, and the
colours of the two, are left out. -/
def TraceLine.text (line : TraceLine) : String := line.name ++ " " ++ line.value.text

/-- The outcome of a construction, with the lines recorded on the way. -/
structure Traced (Outcome : Type) where
  lines : List TraceLine
  outcome : Outcome

namespace Descriptor

/-! ### Membership -/

mutual

/-- Whether the descriptor accepts the value as it is. -/
def accepts : Descriptor → Json → Bool
  | scalar _ _ predicate _ _, value => predicate value
  | record _ _ fields, .object members => acceptsFields fields members
  | record _ _ _, _ => false
  | variant _ _ payload, value => payload.accepts value
  | sum _ _ variants, value => acceptsSome variants value

/-- Whether every field is among the members with a value that its type accepts. -/
def acceptsFields : List (String × Descriptor) → List (String × Json) → Bool
  | [], _ => true
  | (field, type) :: rest, members =>
      (match Table.find? members field with
        | some value => type.accepts value
        | none => false) && acceptsFields rest members

/-- Whether one of the variants accepts the value. -/
def acceptsSome : List (String × Descriptor) → Json → Bool
  | [], _ => false
  | (_, type) :: rest, value => type.accepts value || acceptsSome rest value

end

/-- Membership of a value that may carry a tag: an instance of the descriptor itself, or of one of
its variants if it is a sum, is a member by its tag; everything else is tested. -/
def is (descriptor : Descriptor) (subject : Subject) : Bool :=
  (match subject.tag? with
    | some tag =>
        decide (tag = descriptor.identity) ||
          descriptor.variants.any fun variant => decide (tag = variant.2.identity)
    | none => false) || descriptor.accepts subject.value

/-! ### Construction -/

mutual

/-- Rebuilds a value that the descriptor accepts: undeclared members of records go, nothing is
normalized. -/
def settle : Descriptor → Json → Json
  | scalar _ _ _ _ _, value => value
  | record _ _ fields, .object members => .object (settleFields fields members)
  | record _ _ _, value => value
  | variant _ _ payload, value => payload.settle value
  | sum _ _ variants, value => settleFirst variants value

/-- The declared members in the order of the fields. -/
def settleFields : List (String × Descriptor) → List (String × Json) → List (String × Json)
  | [], _ => []
  | (field, type) :: rest, members =>
      match Table.find? members field with
      | some value => (field, type.settle value) :: settleFields rest members
      | none => settleFields rest members

/-- The value as settled by the first variant that accepts it. -/
def settleFirst : List (String × Descriptor) → Json → Json
  | [], value => value
  | (_, type) :: rest, value =>
      if type.accepts value then type.settle value else settleFirst rest value

end

mutual

/-- Normalizes and tests a raw value; the outcome carries no tag yet. -/
def check : Descriptor → Json → Traced (Except Rejection Json)
  | scalar _ name predicate normalizer _, raw =>
      let value := match normalizer with
        | some normalize => normalize raw
        | none => raw
      if predicate value then ⟨[], .ok value⟩ else ⟨[], .error (.invalid name raw [])⟩
  | record _ name fields, .object members =>
      let checked := checkFields name fields members
      match checked.outcome with
      | .ok built => ⟨checked.lines, .ok (.object built)⟩
      | .error rejection => ⟨checked.lines, .error rejection⟩
  | record _ name _, raw => ⟨[], .error (.invalid name raw [])⟩
  | variant _ name payload, raw =>
      let checked := payload.check raw
      match checked.outcome with
      | .ok value =>
          if payload.accepts value then ⟨checked.lines, .ok value⟩
          else ⟨checked.lines, .error (.invalid name value [])⟩
      | .error rejection => ⟨checked.lines, .error rejection⟩
  | sum _ name variants, raw =>
      if acceptsSome variants raw then ⟨[], .ok (settleFirst variants raw)⟩
      else
        let checked := checkFirst variants raw
        match checked.outcome with
        | some value => ⟨checked.lines, .ok value⟩
        | none => ⟨checked.lines, .error (.invalid name raw [])⟩

/-- Checks the fields of a record one after the other; each finished one is recorded. -/
def checkFields (owner : String) : List (String × Descriptor) → List (String × Json) →
    Traced (Except Rejection (List (String × Json)))
  | [], _ => ⟨[], .ok []⟩
  | (field, type) :: rest, members =>
      match Table.find? members field with
      | none => ⟨[], .error (.missing owner field [])⟩
      | some raw =>
          let checked := type.check raw
          match checked.outcome with
          | .error rejection => ⟨checked.lines, .error (rejection.within field)⟩
          | .ok value =>
              let others := checkFields owner rest members
              ⟨checked.lines ++ ⟨type.name, value⟩ :: others.lines,
                others.outcome.map ((field, value) :: ·)⟩

/-- The outcome of the first variant that can construct the value. -/
def checkFirst : List (String × Descriptor) → Json → Traced (Option Json)
  | [], _ => ⟨[], none⟩
  | (_, type) :: rest, raw =>
      let checked := type.check raw
      match checked.outcome with
      | .ok value => ⟨checked.lines, some value⟩
      | .error _ =>
          let others := checkFirst rest raw
          ⟨checked.lines ++ others.lines, others.outcome⟩

end

/-- Constructs an instance from a raw value. -/
def construct (descriptor : Descriptor) (raw : Json) : Traced (Except Rejection Instance) :=
  let checked := descriptor.check raw
  match checked.outcome with
  | .ok value => ⟨checked.lines ++ [⟨descriptor.name, value⟩], .ok ⟨descriptor, value⟩⟩
  | .error rejection => ⟨checked.lines, .error rejection⟩

end Descriptor

end JsonShape
