/-
This file shows that a record sees nothing of an object but its declared members. Two
objects that hold the same under every declared name are members or not alike, and
construction does the same with both, to the last line of the trace
(`Descriptor.record_sees_declared`).

Checking looks members up and leaves the object as it is. It might as well take each
member out when its turn comes, although the gap is then filled with the last member and
what remains is in disorder: names that are still to come are found as before
(`Descriptor.takeFields_eq`).
-/

import JsonShape.Descriptor.Standard
import JsonShape.Proofs.Construction

namespace JsonShape

/-! ### Tables that agree -/

namespace Table

variable {Content : Type} {first second table : Table Content}

/-- Under each of the names the tables hold the same, or nothing both. -/
def AgreeAt (names : List String) (first second : Table Content) : Prop :=
  ∀ name ∈ names, find? first name = find? second name

theorem agreeAt_cons_iff {name : String} {names : List String} :
    AgreeAt (name :: names) first second ↔
      find? first name = find? second name ∧ AgreeAt names first second :=
  List.forall_mem_cons

/-- The order does not matter in a table that holds no name twice. -/
theorem find?_of_perm (reordered : first.Perm second) (distinct : (keys first).Nodup)
    (key : String) : find? first key = find? second key := by
  have distinctToo : (keys second).Nodup := (reordered.map Prod.fst).nodup_iff.mp distinct
  refine Option.ext fun content => ⟨fun found => ?_, fun found => ?_⟩
  · exact find?_of_mem distinctToo (reordered.mem_iff.mp (mem_of_find? found))
  · exact find?_of_mem distinct (reordered.mem_iff.mpr (mem_of_find? found))

/-- The table without the entry of a name; the last entry moves into the gap. -/
def swapRemove : Table Content → String → Table Content
  | [], _ => []
  | (name, content) :: rest, key =>
      if name = key then
        match rest.getLast? with
        | some last => last :: rest.dropLast
        | none => []
      else (name, content) :: swapRemove rest key

theorem swapRemove_cons_self (key : String) (content : Content) (rest : Table Content) :
    (swapRemove ((key, content) :: rest) key).Perm rest := by
  rw [swapRemove, if_pos rfl]
  rcases List.eq_nil_or_concat rest with rfl | ⟨others, last, rfl⟩
  · exact .refl _
  · rw [List.concat_eq_append, List.getLast?_concat, List.dropLast_concat]
    exact (List.perm_append_singleton last others).symm

/-- Without the entry of a name, the other names stay. -/
theorem mem_keys_swapRemove {key name : String} (member : name ∈ keys (swapRemove table key)) :
    name ∈ keys table := by
  induction table with
  | nil => exact member
  | cons entry rest inductionHypothesis =>
    by_cases same : entry.1 = key
    · obtain rfl := same
      exact List.mem_cons_of_mem _
        (((swapRemove_cons_self entry.1 entry.2 rest).map Prod.fst).mem_iff.mp member)
    · rw [swapRemove, if_neg same] at member
      rcases List.mem_cons.mp member with rfl | inRest
      · exact List.mem_cons_self
      · exact List.mem_cons_of_mem _ (inductionHypothesis inRest)

theorem nodup_keys_swapRemove (distinct : (keys table).Nodup) (key : String) :
    (keys (swapRemove table key)).Nodup := by
  induction table with
  | nil => exact distinct
  | cons entry rest inductionHypothesis =>
    obtain ⟨absent, restDistinct⟩ := List.nodup_cons.mp distinct
    by_cases same : entry.1 = key
    · obtain rfl := same
      exact ((swapRemove_cons_self entry.1 entry.2 rest).map Prod.fst).nodup_iff.mpr restDistinct
    · rw [swapRemove, if_neg same]
      exact List.nodup_cons.mpr
        ⟨fun member => absent (mem_keys_swapRemove member), inductionHypothesis restDistinct⟩

/-- Other names are found as if the entry had not been removed. -/
theorem find?_swapRemove_other (distinct : (keys table).Nodup) {key other : String}
    (different : key ≠ other) : find? (swapRemove table key) other = find? table other := by
  induction table with
  | nil => rfl
  | cons entry rest inductionHypothesis =>
    obtain ⟨_, restDistinct⟩ := List.nodup_cons.mp distinct
    by_cases same : entry.1 = key
    · obtain rfl := same
      have kept := swapRemove_cons_self entry.1 entry.2 rest
      have keptDistinct := (kept.map Prod.fst).nodup_iff.mpr restDistinct
      rw [find?_of_perm kept keptDistinct, find?, if_neg different]
    · rw [swapRemove, if_neg same, find?, find?, inductionHypothesis restDistinct]

end Table

namespace Descriptor

/-! ### Fields that see the same -/

variable {fields : List (String × Descriptor)} {members others : List (String × Json)}

theorem acceptsFields_of_agreeAt (agree : Table.AgreeAt (Table.keys fields) members others) :
    acceptsFields fields members = acceptsFields fields others := by
  induction fields with
  | nil => rw [acceptsFields, acceptsFields]
  | cons field rest inductionHypothesis =>
    obtain ⟨same, agree⟩ := Table.agreeAt_cons_iff.mp agree
    rw [acceptsFields, acceptsFields, same, inductionHypothesis agree]

/-- Whichever field fails, it fails after the same lines and for the same reason. -/
theorem checkFields_of_agreeAt (owner : String)
    (agree : Table.AgreeAt (Table.keys fields) members others) :
    checkFields owner fields members = checkFields owner fields others := by
  induction fields with
  | nil => rw [checkFields, checkFields]
  | cons field rest inductionHypothesis =>
    obtain ⟨same, agree⟩ := Table.agreeAt_cons_iff.mp agree
    rw [checkFields, checkFields, same, inductionHypothesis agree]

/-! ### Members taken out -/

/-- Checks the fields of a record one after the other, and takes out of the object what is given to
each of them. -/
def takeFields (owner : String) : List (String × Descriptor) → List (String × Json) →
    Traced (Except Rejection (List (String × Json)))
  | [], _ => ⟨[], .ok []⟩
  | (field, type) :: rest, members =>
      match Table.find? members field with
      | none => ⟨[], .error (.missing owner field [])⟩
      | some raw =>
          let checked := type.check raw
          match checked.outcome with
          | .error rejection => ⟨checked.lines, .error (rejection.within field)⟩
          | .ok value =>
              let others := takeFields owner rest (Table.swapRemove members field)
              ⟨checked.lines ++ ⟨type.name, value⟩ :: others.lines,
                others.outcome.map ((field, value) :: ·)⟩

/-- Taking members out changes nothing for the fields that follow, because no field is declared
twice. -/
theorem takeFields_eq (owner : String) (declared : (Table.keys fields).Nodup)
    (distinct : (Table.keys members).Nodup) :
    takeFields owner fields members = checkFields owner fields members := by
  induction fields generalizing members with
  | nil => rw [takeFields, checkFields]
  | cons field rest inductionHypothesis =>
    obtain ⟨absent, restDeclared⟩ := List.nodup_cons.mp declared
    have agree : Table.AgreeAt (Table.keys rest) (Table.swapRemove members field.1) members := by
      refine fun name later => Table.find?_swapRemove_other distinct ?_
      exact fun same => absent (same ▸ later)
    have later : takeFields owner rest (Table.swapRemove members field.1) =
        checkFields owner rest members :=
      (inductionHypothesis restDeclared (Table.nodup_keys_swapRemove distinct field.1)).trans
        (checkFields_of_agreeAt owner agree)
    rw [takeFields, later]
    rfl

/-! ### Records -/

/-- A record sees only its declared fields. Of two objects that hold the same under each of their
names, or nothing there both, whatever else they hold and in whatever order, both are members or
none is; and construction gives from both the same value, with its members in the order of the
fields, or the same rejection, and records the same lines. So it does when the members are taken out
of the objects one after the other. -/
theorem record_sees_declared (identity : Identity) (name : String)
    (agree : Table.AgreeAt (Table.keys fields) members others) :
    (record identity name fields).is (.raw (.object members)) =
        (record identity name fields).is (.raw (.object others)) ∧
      (record identity name fields).construct (.object members) =
        (record identity name fields).construct (.object others) ∧
      (∀ made, ((record identity name fields).construct (.object members)).outcome = .ok made →
        ∃ built, made.value = .object built ∧ Table.keys built = Table.keys fields) ∧
      ((Table.keys fields).Nodup → (Table.keys members).Nodup → (Table.keys others).Nodup →
        takeFields name fields members = checkFields name fields members ∧
          takeFields name fields others = checkFields name fields members) := by
  have same := checkFields_of_agreeAt name agree
  refine ⟨?_, ?_, fun made done => ?_, fun declared distinct distinctToo => ⟨?_, ?_⟩⟩
  · simp only [is, Subject.tag?, Subject.value, accepts, acceptsFields_of_agreeAt agree]
  · simp only [construct, check, same]
  · obtain ⟨_, checked⟩ := construct_eq_ok_iff.mp done
    obtain ⟨_, built, _, value, rebuilt⟩ := check_record_eq_ok_iff.mp checked
    exact ⟨built, value, rebuilt.keys⟩
  · exact takeFields_eq name declared distinct
  · rw [same, takeFields_eq name declared distinctToo]

/-- A record inside a record. -/
def labelledPoint : List (String × Descriptor) :=
  [("label", Standard.string), ("at", .record (.made 1) "Mark.at" [("x", Standard.boolean)])]

/-- Two objects with different members beside those of a mark, in different orders. -/
def surroundedMark (place : Json) : List (String × Json) × List (String × Json) :=
  ([("more", .null), ("at", place), ("label", .string "a"), ("last", .array [])],
    [("label", .string "a"), ("at", place), ("x", .string "b")])

theorem surroundedMark_agree (place : Json) :
    Table.AgreeAt (Table.keys labelledPoint) (surroundedMark place).1 (surroundedMark place).2 := by
  simp [Table.AgreeAt, labelledPoint, surroundedMark, Table.keys, Table.find?]

/-- A mark is constructed from both objects if its place is one, and is rejected for both after the
label has been checked if it is none. -/
theorem record_sees_declared_mark :
    let mark := record (.made 0) "Mark" labelledPoint
    let placed := surroundedMark (.object [("y", .null), ("x", .bool true)])
    let lost := surroundedMark (.object [("x", .null)])
    (mark.construct (.object placed.2)).outcome =
        .ok ⟨mark, .object [("label", .string "a"), ("at", .object [("x", .bool true)])]⟩ ∧
      mark.construct (.object lost.2) =
        ⟨[⟨"String", .string "a"⟩], .error (.invalid "Boolean" .null ["at", "x"])⟩ ∧
      mark.is (.raw (.object lost.2)) = false ∧
      takeFields "Mark" labelledPoint placed.2 = checkFields "Mark" labelledPoint placed.1 := by
  intro mark placed lost
  have sees (place : Json) :=
    record_sees_declared (.made 0) "Mark" (surroundedMark_agree place)
  obtain ⟨_, built, _, taken⟩ := sees (.object [("y", .null), ("x", .bool true)])
  obtain ⟨member, rejected, _⟩ := sees (.object [("x", .null)])
  refine ⟨built ▸ rfl, rejected ▸ rfl, member ▸ rfl, ?_⟩
  exact (taken (by decide) (by decide) (by decide)).2

end Descriptor

end JsonShape
