/-
This file holds JSON values. Numbers come in two kinds that are never equal:
integers that fit 64 bits, signed or unsigned, and finite floating-point numbers.
Objects are ordered tables, but equality of values (`Json.equal`) looks members up
by name, so the order in which an object was written does not count there.
-/

import JsonShape.Table
import JsonShape.Number.Binary64

namespace JsonShape

/-! ### Numbers -/

/-- An integer that fits 64 bits, signed or unsigned. -/
structure Integer where
  value : Int
  lower : -0x8000000000000000 ≤ value
  upper : value ≤ 0xffffffffffffffff
deriving DecidableEq

/-- A JSON number. -/
inductive Number where
  | integer (whole : Integer)
  | float (real : Binary64)
deriving DecidableEq

namespace Number

/-- The integer, if it fits. -/
def ofInt? (value : Int) : Option Number :=
  if bounds : -0x8000000000000000 ≤ value ∧ value ≤ 0xffffffffffffffff then
    some (integer ⟨value, bounds.1, bounds.2⟩)
  else none

/-- Integers equal integers and floats equal floats, by value. -/
def equal : Number → Number → Bool
  | integer first, integer second => decide (first.value = second.value)
  | float first, float second => first.equal second
  | _, _ => false

/-- The number as a float; an integer is rounded. -/
def toBinary64? : Number → Option Binary64
  | integer whole => Binary64.ofInt? whole.value
  | float real => some real

end Number

/-! ### Values -/

/-- A JSON value. -/
inductive Json where
  | null
  | bool (value : Bool)
  | number (value : Number)
  | string (value : String)
  | array (items : List Json)
  | object (members : List (String × Json))

namespace Json

mutual

/-- Equality that does not look at the order of the members of objects. -/
def equal : Json → Json → Bool
  | null, null => true
  | bool first, bool second => first == second
  | number first, number second => first.equal second
  | string first, string second => first == second
  | array first, array second => equalItems first second
  | object first, object second =>
      first.length == second.length && equalMembers first second
  | _, _ => false

/-- Lists of equal length whose items are equal one by one. -/
def equalItems : List Json → List Json → Bool
  | [], [] => true
  | first :: firstRest, second :: secondRest =>
      equal first second && equalItems firstRest secondRest
  | _, _ => false

/-- Every member has an equal one under the same name in the second table. -/
def equalMembers : List (String × Json) → List (String × Json) → Bool
  | [], _ => true
  | (name, value) :: rest, second =>
      (match Table.find? second name with
        | some other => equal value other
        | none => false) && equalMembers rest second

end

/-- The member of that name, if the value is an object that has it. -/
def member? : Json → String → Option Json
  | object members, name => Table.find? members name
  | _, _ => none

/-- The text of a string. -/
def string? : Json → Option String
  | string value => some value
  | _ => none

/-- The floating-point value of a number. -/
def binary64? : Json → Option Binary64
  | number value => value.toBinary64?
  | _ => none

/-! ### Kinds

Absence has one marker, `null`, which is of none of the five kinds. -/

/-- Whether the value is a string. -/
def isString : Json → Bool
  | string _ => true
  | _ => false

/-- Whether the value is a number; every number here is finite. -/
def isNumber : Json → Bool
  | number _ => true
  | _ => false

/-- Whether the value is an object. -/
def isObject : Json → Bool
  | object _ => true
  | _ => false

/-- Whether the value is `true` or `false`. -/
def isBoolean : Json → Bool
  | bool _ => true
  | _ => false

/-- Whether the value is an array. -/
def isArray : Json → Bool
  | array _ => true
  | _ => false

/-- Whether the value is the marker of absence. -/
def isNothing : Json → Bool
  | null => true
  | _ => false

/-- Whether the value is anything but the marker of absence. -/
def isSomething (value : Json) : Bool := !value.isNothing

/-! ### Induction over the form of a value -/

/-- A statement holds of every value if it holds of the scalars, and of arrays and objects as soon
as it holds of what stands in them. -/
@[elab_as_elim, induction_eliminator]
theorem induction {motive : Json → Prop} (null : motive .null)
    (bool : ∀ value, motive (.bool value)) (number : ∀ value, motive (.number value))
    (string : ∀ value, motive (.string value))
    (array : ∀ items, (∀ item ∈ items, motive item) → motive (.array items))
    (object : ∀ members, (∀ member ∈ members, motive member.2) → motive (.object members))
    (value : Json) : motive value := by
  -- A list of items or members has the property when each of its entries has it.
  refine @Json.rec motive (fun items => ∀ item ∈ items, motive item)
    (fun members => ∀ member ∈ members, motive member.2) (fun member => motive member.2)
    null bool number string array object ?_ ?_ ?_ ?_ ?_ value
  · exact List.forall_mem_nil _
  · exact fun _ _ ofHead ofRest => List.forall_mem_cons.mpr ⟨ofHead, ofRest⟩
  · exact List.forall_mem_nil _
  · exact fun _ _ ofHead ofRest => List.forall_mem_cons.mpr ⟨ofHead, ofRest⟩
  · exact fun _ _ held => held

end Json

end JsonShape
