/-
This file holds the standard descriptors: the five raw kinds of JSON values, any
value that is not absent, absence itself, and the two payloads of a result. Absence
takes the place of every input; the payloads of a result are built from a bare value
and from anything that can be shown.
-/

import JsonShape.Descriptor.Basic
import JsonShape.Json.Printer

namespace JsonShape

/-- A schema that asks for one kind of values. -/
def kindSchema (kind : String) : Json := .object [("type", .string kind)]

/-- A schema that asks for anything but absence. -/
def presentSchema : Json := .object [("not", kindSchema "null")]

/-! ### The payloads of a result -/

/-- An object that says `ok` and holds a value that is not absent. -/
def isSuccess (value : Json) : Bool :=
  (match value.member? "ok" with
    | some (.bool flag) => flag
    | _ => false) &&
  (match value.member? "value" with
    | some content => content.isSomething
    | none => false)

/-- An object that denies `ok` and holds an error text. -/
def isFailure (value : Json) : Bool :=
  (match value.member? "ok" with
    | some (.bool flag) => !flag
    | _ => false) &&
  (match value.member? "error" with
    | some content => content.isString
    | none => false)

/-- The payload of a success. -/
def successPayload (value : Json) : Json := .object [("ok", .bool true), ("value", value)]

/-- The text by which an error is reported: a string as it is, anything else as JSON text. -/
def errorText : Json → String
  | .string text => text
  | other => other.text

/-- The payload of a failure. -/
def failurePayload (error : Json) : Json :=
  .object [("ok", .bool false), ("error", .string (errorText error))]

/-- The schema of an object that holds a fixed `ok` and one more member. -/
def outcomeSchema (flag : Bool) (member : String) (schema : Json) : Json :=
  .object [
    ("type", .string "object"),
    ("properties", .object [("ok", .object [("const", .bool flag)]), (member, schema)]),
    ("required", .array [.string "ok", .string member])]

/-! ### The descriptors -/

namespace Standard

/-- A standard scalar, known by its name. -/
def scalar (name : String) (predicate : Predicate) (normalizer : Option Normalizer)
    (schema : Json) : Descriptor :=
  .scalar (.standard name) name predicate normalizer (some schema)

/-- Any string. -/
def string : Descriptor := scalar "String" Json.isString none (kindSchema "string")

/-- Any number. -/
def number : Descriptor := scalar "Number" Json.isNumber none (kindSchema "number")

/-- Either of the two truth values. -/
def boolean : Descriptor := scalar "Boolean" Json.isBoolean none (kindSchema "boolean")

/-- Any array. -/
def array : Descriptor := scalar "Array" Json.isArray none (kindSchema "array")

/-- Any object. -/
def object : Descriptor := scalar "Object" Json.isObject none (kindSchema "object")

/-- Anything but absence. -/
def any : Descriptor := scalar "Any" Json.isSomething none presentSchema

/-- Absence, into which every input is turned. -/
def nothing : Descriptor :=
  scalar "Nothing" Json.isNothing (some fun _ => .null) (kindSchema "null")

/-- The payload of a success, built from the bare value. -/
def success : Descriptor :=
  scalar "Success" isSuccess (some successPayload) (outcomeSchema true "value" presentSchema)

/-- The payload of a failure, built from anything that can be shown. -/
def error : Descriptor :=
  scalar "Error" isFailure (some failurePayload) (outcomeSchema false "error" (kindSchema "string"))

/-- All of them, in a fixed order. -/
def all : List Descriptor :=
  [string, number, boolean, array, object, any, nothing, success, error]

end Standard

/-- The raw kinds that a field may be declared with directly. -/
inductive Primitive where
  | string
  | number
  | boolean
  | array
  | object
deriving DecidableEq

/-- The descriptor of a raw kind. -/
def Primitive.descriptor : Primitive → Descriptor
  | string => Standard.string
  | number => Standard.number
  | boolean => Standard.boolean
  | array => Standard.array
  | object => Standard.object

end JsonShape
