/-
This file reads numbers. The digits before and after the point are gathered into one
significand as long as it fits 64 bits. Of the digits before the point that no longer
fit only the count is kept; those after it are dropped. A literal without point and
exponent that fits 64 bits stays an integer, every other one becomes a float, the
literal `-0` included.
-/

import JsonShape.Json.Cursor
import JsonShape.Number.Approximate

namespace JsonShape

/-! ### Digits -/

/-- The value of a decimal digit. -/
def digitValue (character : Char) : Nat := character.toNat - '0'.toNat

/-- What a run of digits adds up to, how many digits were taken, and what follows them. -/
structure DigitRun where
  value : Nat
  count : Nat
  rest : List Char

/-- Appends decimal digits to a number while the result stays below the limit. -/
def appendDigits (limit : Nat) (value : Nat) : List Char → DigitRun
  | [] => ⟨value, 0, []⟩
  | character :: rest =>
      if character.isDigit ∧ value * 10 + digitValue character < limit then
        let run := appendDigits limit (value * 10 + digitValue character) rest
        { run with count := run.count + 1 }
      else ⟨value, 0, character :: rest⟩

/-- The number of digits at the front of a text. -/
def countDigits (text : List Char) : Nat := (text.takeWhile Char.isDigit).length

/-- Whether a digit comes next. -/
def startsWithDigit : List Char → Bool
  | character :: _ => character.isDigit
  | [] => false

/-! ### The parts of a number -/

/-- One more than the greatest significand. -/
def significandLimit : Nat := 1 <<< 64

/-- One more than the greatest written exponent. -/
def exponentLimit : Nat := 1 <<< 31

/-- The whole part: its significand, and how many of its digits did not fit. A zero stands
alone. -/
def readWhole (cursor : Cursor) : Except ReadError (Nat × Nat × Cursor) :=
  match cursor.rest with
  | [] => .error (cursor.errorHere .endInValue)
  | '0' :: rest =>
      if startsWithDigit rest then .error ((cursor.skip 1).errorAtNext .invalidNumber)
      else .ok (0, 0, cursor.skip 1)
  | character :: _ =>
      if character.isDigit then
        let run := appendDigits significandLimit 0 cursor.rest
        let dropped := countDigits run.rest
        .ok (run.value, dropped, cursor.skip (run.count + dropped))
      else .error ((cursor.skip 1).errorHere .invalidNumber)

/-- The fraction behind a point: the significand with its digits, and how many were taken. -/
def readFraction (significand : Nat) (cursor : Cursor) : Except ReadError (Nat × Nat × Cursor) :=
  if startsWithDigit cursor.rest then
    let run := appendDigits significandLimit significand cursor.rest
    .ok (run.value, run.count, cursor.skip (run.count + countDigits run.rest))
  else if cursor.rest.isEmpty then .error (cursor.errorAtNext .endInValue)
  else .error (cursor.errorAtNext .invalidNumber)

/-- The float of a significand and a power of ten under a sign. -/
def floatOf (negative : Bool) (significand : Nat) (exponent : Int) (cursor : Cursor) :
    Except ReadError (Number × Cursor) :=
  match Binary64.ofDecimal? significand exponent with
  | some magnitude => .ok (.float (magnitude.withSign negative), cursor)
  | none => .error (cursor.errorHere .numberOutOfRange)

/-- The exponent behind its letter, and the float it completes. An exponent beyond 32 bits is
out of range if it is positive and the significand is not zero; otherwise the value is zero. -/
def readExponent (negative : Bool) (significand : Nat) (exponent : Int) (cursor : Cursor) :
    Except ReadError (Number × Cursor) :=
  let (minus, cursor) := match cursor.rest with
    | '+' :: _ => (false, cursor.skip 1)
    | '-' :: _ => (true, cursor.skip 1)
    | _ => (false, cursor)
  match cursor.rest with
  | [] => .error (cursor.errorHere .endInValue)
  | character :: _ =>
      if character.isDigit then
        let run := appendDigits exponentLimit 0 cursor.rest
        let cursor := cursor.skip run.count
        if startsWithDigit run.rest then
          if significand ≠ 0 ∧ !minus then
            .error ((cursor.skip 1).errorHere .numberOutOfRange)
          else .ok (.float (.zero negative), cursor.skip (countDigits run.rest))
        else
          let written : Int := if minus then -run.value else run.value
          floatOf negative significand (exponent + written) cursor
      else .error ((cursor.skip 1).errorHere .invalidNumber)

/-- The number of an integer literal: an integer if it fits and is not the negative zero. -/
def integerOf (negative : Bool) (magnitude : Nat) (cursor : Cursor) :
    Except ReadError (Number × Cursor) :=
  if negative ∧ magnitude = 0 then .ok (.float (.zero true), cursor)
  else match Number.ofInt? (if negative then -magnitude else magnitude) with
    | some number => .ok (number, cursor)
    | none => floatOf negative magnitude 0 cursor

/-- What follows the whole part: a fraction, an exponent, both or nothing. -/
def readAfterWhole (negative : Bool) (significand dropped : Nat) (cursor : Cursor) :
    Except ReadError (Number × Cursor) :=
  match cursor.rest with
  | '.' :: _ => do
      let (significand, taken, cursor) ← readFraction significand (cursor.skip 1)
      let exponent := (dropped : Int) - taken
      match cursor.rest with
      | 'e' :: _ => readExponent negative significand exponent (cursor.skip 1)
      | 'E' :: _ => readExponent negative significand exponent (cursor.skip 1)
      | _ => floatOf negative significand exponent cursor
  | 'e' :: _ => readExponent negative significand dropped (cursor.skip 1)
  | 'E' :: _ => readExponent negative significand dropped (cursor.skip 1)
  | _ =>
      if dropped = 0 then integerOf negative significand cursor
      else floatOf negative significand dropped cursor

/-- A number, from its sign or first digit on. -/
def readNumber (cursor : Cursor) : Except ReadError (Number × Cursor) :=
  let (negative, cursor) := match cursor.rest with
    | '-' :: _ => (true, cursor.skip 1)
    | _ => (false, cursor)
  do
    let (significand, dropped, cursor) ← readWhole cursor
    readAfterWhole negative significand dropped cursor

end JsonShape
