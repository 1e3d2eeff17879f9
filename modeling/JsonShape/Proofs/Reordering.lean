/-
This file shows that the order of a file's declarations decides whether the file is loaded
and nothing else. Two files with the same declarations that are both loaded bind every
declared name to the same entry but for its identities, so to types that accept the same
values, construct the same or reject for the same reason, and have the same schema
(`Registry.load_perm`).

The two runs look names up in registries that grow in different orders, so they cannot be
compared step by step. They are compared in what they lead to: in both results a
declaration stands for the entry under its name (`Registry.declareAll_denoted`), which
depends on the names it refers to alone, and in a file that is loaded these come before
it. So the agreement of the two results spreads along the order of the first file
(`Registry.agree_declareAll`).
-/

import JsonShape.Pattern.Basic
import JsonShape.Proofs.Denotation
import Mathlib.Data.List.Induction

namespace JsonShape

variable {engine : PatternEngine}

namespace Registry

/-- Of the names, those that stand for a type in the first registry stand for the same in the second
one, identities aside. -/
def AgreeOn (names : List String) (first second : Registry) : Prop :=
  ∀ name ∈ names, ∀ type, first.anonymous? name = some type → second.anonymous? name = some type

section Runs

variable {registry left right : Registry} {first second : List (String × Declaration)}
  {supply other leftRest rightRest : Supply}

/-- A declaration that is made in both runs makes the same entry, identities aside, if the results
agree on the names that it refers to. -/
theorem exists_anonymous_eq
    (leftDone : registry.declareAll engine first supply = .ok (left, leftRest))
    (rightDone : registry.declareAll engine second other = .ok (right, rightRest))
    {declared : String × Declaration} (inFirst : declared ∈ first) (inSecond : declared ∈ second)
    {names : List String} (agree : AgreeOn names left right)
    (refers : ∀ name, declared.2.RefersTo name → name ∈ names) :
    ∃ leftEntry rightEntry, left.find? declared.1 = some leftEntry ∧
      right.find? declared.1 = some rightEntry ∧
      leftEntry.anonymous = rightEntry.anonymous := by
  obtain ⟨leftEntry, leftFound, leftDenotes⟩ := declareAll_denoted leftDone declared inFirst
  obtain ⟨rightEntry, rightFound, rightDenotes⟩ := declareAll_denoted rightDone declared inSecond
  have denotes :
      declared.2.denoted? engine right.anonymous? declared.1 = some leftEntry.anonymous :=
    Declaration.denoted?_mono (fun name reference => agree name (refers name reference)) leftDenotes
  exact ⟨leftEntry, rightEntry, leftFound, rightFound,
    Option.some.inj (denotes.symm.trans rightDenotes)⟩

/-- What a declaration of a loaded row refers to was registered before or is declared earlier. -/
theorem mem_of_refersTo_of_declareAll
    (done : registry.declareAll engine first supply = .ok (left, leftRest))
    {earlier later : List (String × Declaration)} {declared : String × Declaration}
    (split : first = earlier ++ declared :: later) (name : String)
    (refers : declared.2.RefersTo name) : name ∈ registry.names ++ Table.keys earlier :=
  ((exists_declareAll_iff supply).mp ⟨left, leftRest, done⟩ earlier declared.1 declared.2 later
    split).2.mem_of_refersTo refers

/-- Two rows of declarations that are both made, the second of which has every declaration of the
first, lead to the same under every name that was registered before or is declared in the first row
up to some place. -/
theorem agree_declareAll (leftDone : registry.declareAll engine first supply = .ok (left, leftRest))
    (rightDone : registry.declareAll engine second other = .ok (right, rightRest))
    (contained : ∀ declared ∈ first, declared ∈ second)
    {earlier later : List (String × Declaration)} (split : first = earlier ++ later) :
    AgreeOn (registry.names ++ Table.keys earlier) left right := by
  induction earlier using List.reverseRecOn generalizing later with
  | nil =>
    intro name member type known
    obtain ⟨leftAdded, leftBehind, _⟩ := declareAll_adds leftDone
    obtain ⟨rightAdded, rightBehind, _⟩ := declareAll_adds rightDone
    obtain ⟨content, found⟩ := exists_type?_iff.mpr (by simpa [Table.keys] using member)
    have before : registry.anonymous? name = some content.anonymous := by
      rw [anonymous?, found, Option.map_some]
    obtain rfl := Option.some.inj ((anonymous?_append leftBehind before).symm.trans known)
    exact anonymous?_append rightBehind before
  | append_singleton earlier declared inductionHypothesis =>
    have split : first = earlier ++ declared :: later := by
      rw [split, List.append_assoc, List.singleton_append]
    have agree := inductionHypothesis split
    intro name member type known
    rw [Table.keys_append, ← List.append_assoc] at member
    rcases List.mem_append.mp member with before | here
    · exact agree name before type known
    · -- What the declaration refers to stands before it, where the results agree already.
      obtain rfl : name = declared.1 := List.mem_singleton.mp here
      have inFirst : declared ∈ first := split ▸ List.mem_append_right _ List.mem_cons_self
      obtain ⟨leftEntry, rightEntry, leftFound, rightFound, same⟩ :=
        exists_anonymous_eq leftDone rightDone inFirst (contained declared inFirst) agree
          (mem_of_refersTo_of_declareAll leftDone split)
      rw [anonymous?_of_find? leftFound, same] at known
      exact (anonymous?_of_find? rightFound).trans known

end Runs

/-- Files that hold the same declarations in whatever order, if they are both loaded, bind every
declared name to the same entry, identities aside: to types that accept the same values, construct
the same values with the same trace or give the same rejection, and have the same schema. -/
theorem load_perm (registry : Registry) {first second : DefinitionFile}
    (reordered : first.types.Perm second.types) {supply other : Supply} {left right : Loaded}
    (leftDone : registry.load engine first supply = .ok left)
    (rightDone : registry.load engine second other = .ok right) :
    ∀ name ∈ Table.keys first.types, ∃ leftEntry rightEntry,
      left.registry.find? name = some leftEntry ∧ right.registry.find? name = some rightEntry ∧
      leftEntry.anonymous = rightEntry.anonymous ∧
      (∀ value, leftEntry.asType.is (.raw value) = rightEntry.asType.is (.raw value)) ∧
      (∀ raw, (leftEntry.asType.construct raw).lines = (rightEntry.asType.construct raw).lines ∧
        (leftEntry.asType.construct raw).outcome.map Instance.value =
          (rightEntry.asType.construct raw).outcome.map Instance.value) ∧
      leftEntry.asType.schema = rightEntry.asType.schema := by
  intro name named
  obtain ⟨declared, member, rfl⟩ := List.mem_map.mp named
  obtain ⟨earlier, later, split⟩ := List.append_of_mem member
  obtain ⟨leftDone, _⟩ := load_eq_ok_iff.mp leftDone
  obtain ⟨rightDone, _⟩ := load_eq_ok_iff.mp rightDone
  have agree := agree_declareAll leftDone rightDone (fun _ => reordered.mem_iff.mp) split
  obtain ⟨leftEntry, rightEntry, leftFound, rightFound, same⟩ :=
    exists_anonymous_eq leftDone rightDone member (reordered.mem_iff.mp member) agree
      (mem_of_refersTo_of_declareAll leftDone split)
  have alike := Entry.alike_of_anonymous_eq same
  exact ⟨leftEntry, rightEntry, leftFound, rightFound, same, congrFun alike.accepts,
    alike.construct, alike.schema⟩

/-- A refinement and a union, and a record with a field of each, the second of them inside a
field. -/
def labelledSizes : DefinitionFile where
  types := [("Size", .refine ⟨"Number", none, some (.zero false), none⟩),
    ("Label", .union (.object [("Long", .object [("l", .string "String")]),
      ("Short", .string "String")])),
    ("Card", .data (.object [("size", .string "Size"), ("on", .object [("l", .string "Label")])]))]

/-- The same with the union in front of the refinement. -/
def sizedLabels : DefinitionFile where
  types := [("Label", .union (.object [("Long", .object [("l", .string "String")]),
      ("Short", .string "String")])),
    ("Size", .refine ⟨"Number", none, some (.zero false), none⟩),
    ("Card", .data (.object [("size", .string "Size"), ("on", .object [("l", .string "Label")])]))]

/-- A value with a size, a label and a member that is not declared. -/
def bigCard : Json :=
  .object [("on", .object [("l", .string "big")]), ("at", .null),
    ("size", .number (.float (.zero true)))]

/-- The size takes the first turn in one order and the last but two in the other. The record is the
same all the same: it accepts the card and constructs the same from it. -/
theorem load_perm_card :
    ∃ left right leftEntry rightEntry, standard.load Pattern.engine labelledSizes .full = .ok left ∧
      standard.load Pattern.engine sizedLabels .full = .ok right ∧
      (left.registry.type? "Size").map Descriptor.identity = some (.made 0) ∧
      (right.registry.type? "Size").map Descriptor.identity = some (.made 4) ∧
      left.registry.find? "Card" = some leftEntry ∧
      right.registry.find? "Card" = some rightEntry ∧
      leftEntry.anonymous = rightEntry.anonymous ∧
      leftEntry.asType.is (.raw bigCard) = true ∧ rightEntry.asType.is (.raw bigCard) = true ∧
      (leftEntry.asType.construct bigCard).outcome.map Instance.value =
        (rightEntry.asType.construct bigCard).outcome.map Instance.value ∧
      leftEntry.asType.schema = rightEntry.asType.schema := by
  have run : (do
      let left ← (standard.load Pattern.engine labelledSizes .full).toOption
      let right ← (standard.load Pattern.engine sizedLabels .full).toOption
      let leftEntry ← left.registry.find? "Card"
      return ((left.registry.type? "Size").map Descriptor.identity,
        (right.registry.type? "Size").map Descriptor.identity,
        leftEntry.asType.is (.raw bigCard))) =
      some (some (.made 0), some (.made 4), true) := by
    decide +kernel
  simp only [bind, Option.bind_eq_some_iff, toOption_eq_some_iff, pure, Option.some.injEq,
    Prod.mk.injEq] at run
  obtain ⟨left, leftDone, right, rightDone, card, found, leftTurn, rightTurn, accepted⟩ := run
  obtain ⟨leftEntry, rightEntry, leftFound, rightFound, same, accepts, constructs, schema⟩ :=
    load_perm standard (List.Perm.swap _ _ _) leftDone rightDone "Card" (by decide)
  obtain rfl : card = leftEntry := Option.some.inj (found.symm.trans leftFound)
  exact ⟨left, right, card, rightEntry, leftDone, rightDone, leftTurn, rightTurn, leftFound,
    rightFound, same, accepted, accepts bigCard ▸ accepted, (constructs bigCard).2, schema⟩

end Registry

end JsonShape
