/-
This file reads the trace of a construction without sums. A construction that succeeds
records what it has made in the order in which a tree is left: field by field in the
order of declaration, what stands inside a field before the field itself, and the whole
value last (`Descriptor.postOrder`). A construction that fails has recorded the fields
that precede the failing one, each of them completely and with everything inside it, at
the outermost record first and at the record of the failure last, and nothing else
(`Descriptor.linesBefore`). It has no line for what was not finished.

Success and failure have one argument in common. Fields that pass record their own lines
one after the other and leave the rest of the record to the fields that follow
(`Descriptor.checkFields_append_lines`). If none follows, the record is finished;
otherwise the next one fails, and the lines that it has recorded by then come behind
those of the fields before it.

Sums are left out because they try their variants in turn and record no line for the
variants that they settle, so the value does not tell what was recorded.
-/

import JsonShape.Proofs.Rejections
import Mathlib.Data.List.Basic

namespace JsonShape

namespace Descriptor

/-! ### Descriptors without sums -/

/-- The descriptor is no sum. -/
def Sumless : Descriptor → Prop
  | sum .. => False
  | _ => True

instance decidableSumless : DecidablePred Sumless
  | sum .. => isFalse id
  | scalar .. | record .. | variant .. => isTrue trivial

/-! ### Values in post-order -/

mutual

/-- The lines for what stands inside a finished value. A variant has no inside of its own, and its
payload gets no line under the payload's name. -/
def innerLines : Descriptor → Json → List TraceLine
  | record _ _ fields, .object members => innerLinesOf fields members
  | variant _ _ payload, value => payload.innerLines value
  | _, _ => []

/-- The lines for the contents of the fields: for each of them first what stands inside it. -/
def innerLinesOf : List (String × Descriptor) → List (String × Json) → List TraceLine
  | [], _ => []
  | (field, type) :: rest, members =>
      (match Table.find? members field with
        | some value => type.innerLines value ++ [⟨type.name, value⟩]
        | none => []) ++ innerLinesOf rest members

end

/-- The lines for a finished value: what stands inside it, and last the value itself. -/
def postOrder (type : Descriptor) (value : Json) : List TraceLine :=
  type.innerLines value ++ [⟨type.name, value⟩]

/-- The lines for a content, if there is one. -/
def postOrderOf (type : Descriptor) (content : Option Json) : List TraceLine :=
  match content with
  | some value => type.postOrder value
  | none => []

theorem innerLinesOf_eq_flatMap (fields : List (String × Descriptor))
    (members : List (String × Json)) :
    innerLinesOf fields members =
      fields.flatMap fun field => field.2.postOrderOf (Table.find? members field.1) := by
  induction fields with
  | nil => rfl
  | cons field rest inductionHypothesis =>
    rw [innerLinesOf, List.flatMap_cons, inductionHypothesis]
    rfl

/-! ### Fields that have been finished -/

/-- What the check of a field makes of its member. -/
def finished? (members : List (String × Json)) (field : String × Descriptor) : Option Json :=
  (Table.find? members field.1).bind fun raw => (field.2.check raw).outcome.toOption

/-- The lines for the fields that the checks have finished. -/
def finishedLines (members : List (String × Json)) (fields : List (String × Descriptor)) :
    List TraceLine :=
  fields.flatMap fun field => field.2.postOrderOf (finished? members field)

theorem finished?_eq_some {members : List (String × Json)} {field : String × Descriptor}
    {raw value : Json} (found : Table.find? members field.1 = some raw)
    (checked : (field.2.check raw).outcome = .ok value) :
    finished? members field = some value := by
  rw [finished?, found, Option.bind_some, checked]
  rfl

/-- The finished fields of a record are the contents of the record that is rebuilt from them. -/
theorem finishedLines_eq_innerLinesOf {fields : List (String × Descriptor)}
    {members built : List (String × Json)} (distinct : (Table.keys fields).Nodup)
    (rebuilt : Rebuilt (fun type raw value => (type.check raw).outcome = .ok value) fields members
      built) : finishedLines members fields = innerLinesOf fields built := by
  rw [innerLinesOf_eq_flatMap, finishedLines]
  refine List.flatMap_congr fun field member => ?_
  obtain ⟨value, foundBuilt, raw, found, checked⟩ := rebuilt.find? distinct member
  rw [finished?_eq_some found checked, foundBuilt]

/-! ### Lines of a failure -/

/-- The lines that have been recorded when construction fails at the end of a trail: at each record
on the way those for the fields that are declared before the next one. -/
def linesBefore : Descriptor → Json → List String → List TraceLine
  | _, _, [] => []
  | type, raw, name :: trail =>
      match type.stripped, raw with
      | record _ _ fields, .object members =>
          finishedLines members (fields.takeWhile fun field => field.1 ≠ name) ++
            match Table.find? fields name, Table.find? members name with
            | some field, some content => field.linesBefore content trail
            | _, _ => []
      | _, _ => []

theorem linesBefore_variant {identity : Identity} {name : String} {payload : Descriptor}
    {raw : Json} {trail : List String} :
    (variant identity name payload).linesBefore raw trail = payload.linesBefore raw trail := by
  cases trail <;> rfl

section Record

variable {identity : Identity} {owner : String} {before after : List (String × Descriptor)}
  {field : String × Descriptor} {members : List (String × Json)}

theorem find?_declared (distinct : (Table.keys (before ++ field :: after)).Nodup) :
    Table.find? (before ++ field :: after) field.1 = some field.2 :=
  Table.find?_of_mem distinct (List.mem_append_right _ List.mem_cons_self)

/-- Where the failing field is not there, the fields before it are all that was finished. -/
theorem linesBefore_of_absent (distinct : (Table.keys (before ++ field :: after)).Nodup)
    (absent : Table.find? members field.1 = none) :
    (record identity owner (before ++ field :: after)).linesBefore (.object members) [field.1] =
      finishedLines members before := by
  simp only [linesBefore, stripped, Rejection.takeWhile_ne_name distinct, find?_declared distinct,
    absent, List.append_nil]

/-- Where the failing field is there, what was finished inside it comes behind the fields before
it. -/
theorem linesBefore_of_found {content : Json} {trail : List String}
    (distinct : (Table.keys (before ++ field :: after)).Nodup)
    (found : Table.find? members field.1 = some content) :
    (record identity owner (before ++ field :: after)).linesBefore (.object members)
        (field.1 :: trail) =
      finishedLines members before ++ field.2.linesBefore content trail := by
  simp only [linesBefore, stripped, Rejection.takeWhile_ne_name distinct, find?_declared distinct,
    found]

end Record

/-! ### Lines of a check -/

/-- A successful check of the field records what stands inside the value that it makes. -/
def RecordsInside (field : String × Descriptor) : Prop :=
  ∀ raw value, (field.2.check raw).outcome = .ok value →
    (field.2.check raw).lines = field.2.innerLines value

theorem check_record_lines {identity : Identity} {name : String}
    {fields : List (String × Descriptor)} {members : List (String × Json)} :
    ((record identity name fields).check (.object members)).lines =
      (checkFields name fields members).lines := by
  rw [check]
  cases checkFields name fields members with
  | mk lines outcome => cases outcome <;> rfl

/-- The test behind the payload of a variant records nothing. -/
theorem check_variant_lines {identity : Identity} {name : String} {payload : Descriptor}
    {raw : Json} :
    ((variant identity name payload).check raw).lines = (payload.check raw).lines := by
  rw [check]
  cases checked : (payload.check raw).outcome with
  | error rejection => rfl
  | ok value =>
    simp only
    split <;> rfl

/-- A field that passes records its lines before those of the fields that follow. -/
theorem checkFields_cons_lines {owner : String} {field : String × Descriptor}
    {rest : List (String × Descriptor)} {members : List (String × Json)} {raw value : Json}
    (found : Table.find? members field.1 = some raw)
    (checked : (field.2.check raw).outcome = .ok value) :
    (checkFields owner (field :: rest) members).lines =
      (field.2.check raw).lines ++ ⟨field.2.name, value⟩ ::
        (checkFields owner rest members).lines := by
  simp only [checkFields, found, checked]

/-- Fields that pass are finished one after the other, before the fields that follow. -/
theorem checkFields_append_lines {owner : String} {before rest : List (String × Descriptor)}
    {members : List (String × Json)} (inside : ∀ field ∈ before, RecordsInside field)
    (passes : ∀ field ∈ before, FieldPasses members field) :
    (checkFields owner (before ++ rest) members).lines =
      finishedLines members before ++ (checkFields owner rest members).lines := by
  induction before with
  | nil => rfl
  | cons field others inductionHypothesis =>
    obtain ⟨insideField, insideOthers⟩ := List.forall_mem_cons.mp inside
    obtain ⟨⟨raw, value, found, checked⟩, othersPass⟩ := List.forall_mem_cons.mp passes
    rw [List.cons_append, checkFields_cons_lines found checked, insideField raw value checked,
      inductionHypothesis insideOthers othersPass, finishedLines, finishedLines, List.flatMap_cons,
      finished?_eq_some found checked]
    simp only [postOrderOf, postOrder, List.append_assoc, List.cons_append, List.nil_append]

section Stopped

variable {owner : String} {before after : List (String × Descriptor)} {field : String × Descriptor}
  {members : List (String × Json)} (inside : ∀ field ∈ before, RecordsInside field)
  (passes : ∀ field ∈ before, FieldPasses members field)

include inside passes

/-- A field that is not there records nothing, and no field after it is looked at. -/
theorem checkFields_lines_of_absent (absent : Table.find? members field.1 = none) :
    (checkFields owner (before ++ field :: after) members).lines =
      finishedLines members before := by
  have here : (checkFields owner (field :: after) members).lines = [] := by
    simp only [checkFields, absent]
  rw [checkFields_append_lines inside passes, here, List.append_nil]

/-- A field that is refused has recorded what was finished inside it, and no field after it is
looked at. -/
theorem checkFields_lines_of_rejected {raw : Json} {rejection : Rejection}
    (found : Table.find? members field.1 = some raw)
    (rejects : (field.2.check raw).outcome = .error rejection) :
    (checkFields owner (before ++ field :: after) members).lines =
      finishedLines members before ++ (field.2.check raw).lines := by
  have here : (checkFields owner (field :: after) members).lines =
      (field.2.check raw).lines := by
    simp only [checkFields, found, rejects]
  rw [checkFields_append_lines inside passes, here]

end Stopped

/-- A check that succeeds records what stands inside the value. -/
theorem check_lines_of_ok {type : Descriptor} (distinct : type.Distinct)
    (sumless : type.Throughout Sumless) {raw value : Json}
    (checked : (type.check raw).outcome = .ok value) :
    (type.check raw).lines = type.innerLines value := by
  induction type generalizing raw value with
  | scalar identity name predicate normalizer schema =>
    rw [check_scalar]
    split <;> rfl
  | record identity name fields inductionHypothesis =>
    have inside : ∀ field ∈ fields, RecordsInside field := fun field member raw value =>
      inductionHypothesis field member (distinct.part (.field member))
        (sumless.part (.field member))
    obtain ⟨members, built, rfl, rfl, rebuilt⟩ := check_record_eq_ok_iff.mp checked
    have passes : ∀ field ∈ fields, FieldPasses members field := by
      intro field member
      obtain ⟨value, _, raw, found, checked⟩ := rebuilt.exists_second member
      exact ⟨raw, value, found, checked⟩
    have names : (Table.keys fields).Nodup := distinct.names
    calc
      ((record identity name fields).check (.object members)).lines
        = (checkFields name (fields ++ []) members).lines := by
          rw [check_record_lines, List.append_nil]
      _ = finishedLines members fields ++ (checkFields name [] members).lines :=
          checkFields_append_lines inside passes
      _ = innerLinesOf fields built := by
          rw [finishedLines_eq_innerLinesOf names rebuilt, checkFields, List.append_nil]
  | variant identity name payload inductionHypothesis =>
    rw [check_variant_lines]
    exact inductionHypothesis (distinct.part .payload) (sumless.part .payload)
      (check_variant_eq_ok_iff.mp checked).1
  | sum => exact absurd sumless.here id

/-- A check that fails has recorded the fields that precede the failing one at each record on the
way. -/
theorem check_lines_of_error {type : Descriptor} (distinct : type.Distinct)
    (sumless : type.Throughout Sumless) {raw : Json} {rejection : Rejection}
    (failed : (type.check raw).outcome = .error rejection) :
    (type.check raw).lines = type.linesBefore raw rejection.trail := by
  induction type generalizing raw rejection with
  | scalar identity name predicate normalizer schema =>
    obtain ⟨refused, rfl⟩ := check_scalar_eq_error_iff.mp failed
    rw [check_scalar, refused]
    rfl
  | record identity name fields inductionHypothesis =>
    rcases check_record_eq_error_iff.mp failed with ⟨other, rfl⟩ | ⟨members, rfl, fieldsFail⟩
    · cases raw with
      | object => cases other
      | null | bool | number | string | array => rfl
    · obtain ⟨before, field, after, rfl, earlier, fails⟩ := checkFields_eq_error_iff.mp fieldsFail
      have inside : ∀ other ∈ before, RecordsInside other := by
        intro other member raw value checked
        have part : PartOf other.2 (record identity name (before ++ field :: after)) :=
          .field (List.mem_append_left _ member)
        exact check_lines_of_ok (distinct.part part) (sumless.part part) checked
      rw [check_record_lines]
      rcases fails with ⟨absent, rfl⟩ | ⟨raw, inner, found, rejects, rfl⟩
      · rw [checkFields_lines_of_absent inside earlier absent]
        exact (linesBefore_of_absent distinct.names absent).symm
      · have member : field ∈ before ++ field :: after :=
          List.mem_append_right _ List.mem_cons_self
        rw [checkFields_lines_of_rejected inside earlier found rejects, Rejection.trail_within,
          linesBefore_of_found distinct.names found,
          inductionHypothesis field member (distinct.part (.field member))
            (sumless.part (.field member)) rejects]
  | variant identity name payload inductionHypothesis =>
    have inside := distinct.part .payload
    rw [check_variant_lines, linesBefore_variant]
    exact inductionHypothesis inside (sumless.part .payload)
      ((check_variant_eq_error_iff inside).mp failed)
  | sum => exact absurd sumless.here id

/-! ### Lines of a construction -/

/-- The trace of a construction without sums. If it succeeds, the lines are those for the value in
post-order. If it fails, they are those for the fields that precede the failing one at each record
on the way to the failure, the outermost record first; all of these fields have passed, so each of
them has all its lines, and nothing that was not finished has one. -/
theorem construct_lines (type : Descriptor) (distinct : type.Distinct)
    (sumless : type.Throughout Sumless) (raw : Json) :
    (∀ made, (type.construct raw).outcome = .ok made →
      (type.construct raw).lines = type.postOrder made.value) ∧
    ∀ rejection, (type.construct raw).outcome = .error rejection →
      (type.construct raw).lines = type.linesBefore raw rejection.trail ∧
        Rejection.PassesBefore type raw rejection.trail := by
  constructor
  · intro made done
    obtain ⟨_, checked⟩ := construct_eq_ok_iff.mp done
    simp only [construct, checked, check_lines_of_ok distinct sumless checked]
    rfl
  · intro rejection failed
    have checked := construct_eq_error_iff.mp failed
    refine ⟨?_, (pointsAt_of_check distinct checked).2⟩
    simp only [construct, checked, check_lines_of_error distinct sumless checked]

/-- A route between two places is recorded from its state to the whole. If its goal lacks the second
number, the first one has been recorded, and the goal and the route have not. -/
theorem construct_lines_route :
    let point : Descriptor := .record (.made 0) "Point"
      [("x", Standard.number), ("y", Standard.number)]
    let place : Descriptor := .variant (.made 1) "Place" point
    let route : Descriptor := .record (.made 2) "Route"
      [("state", Standard.success), ("start", place), ("goal", place)]
    let zero : Json := .number (.float (.zero false))
    let one : Json := .number (.integer ⟨1, by decide, by decide⟩)
    let raw (goal : List (String × Json)) : Json := .object [("goal", .object goal),
      ("state", .string "open"), ("start", .object [("y", one), ("x", zero)])]
    let state : Json := successPayload (.string "open")
    let start : Json := .object [("x", zero), ("y", one)]
    let goal : Json := .object [("x", one), ("y", zero)]
    (route.construct (raw [("note", .null), ("y", zero), ("x", one)])).lines =
        [⟨"Success", state⟩, ⟨"Number", zero⟩, ⟨"Number", one⟩, ⟨"Place", start⟩,
          ⟨"Number", one⟩, ⟨"Number", zero⟩, ⟨"Place", goal⟩,
          ⟨"Route", .object [("state", state), ("start", start), ("goal", goal)]⟩] ∧
      (route.construct (raw [("x", one)])).outcome = .error (.missing "Point" "y" ["goal"]) ∧
      (route.construct (raw [("x", one)])).lines =
        [⟨"Success", state⟩, ⟨"Number", zero⟩, ⟨"Number", one⟩, ⟨"Place", start⟩,
          ⟨"Number", one⟩] := by
  intro point place route zero one raw state start goal
  have distinct : route.Distinct := by
    simp [route, place, point, Distinct, named, Table.keys, Standard.success, Standard.number,
      Standard.scalar]
  have sumless : route.Throughout Sumless := by decide
  obtain ⟨succeeds, _⟩ := construct_lines route distinct sumless
    (raw [("note", .null), ("y", zero), ("x", one)])
  obtain ⟨_, fails⟩ := construct_lines route distinct sumless (raw [("x", one)])
  have failed : (route.construct (raw [("x", one)])).outcome =
      .error (.missing "Point" "y" ["goal"]) := rfl
  exact ⟨succeeds _ rfl, failed, (fails _ failed).1⟩

end Descriptor

end JsonShape
