/-
This file compares the views that a union gives of a value: whether the value is a
member, which variants accept it, which one it is dispatched to, and what a dispatch
to handlers makes of it. They agree for raw values and for every instance that a
session has made.

For a raw value this follows from the definitions, because all views go through the
variants in the order of their declaration. An instance that was built through a
variant is dispatched by its tag, without a test, and a tag of the union is a member
without one. So what is needed there is that the variant of the tag accepts the plain
value, which sessions maintain (`Session.Backed`).
-/

import JsonShape.Pattern.Basic
import JsonShape.Proofs.Session

namespace JsonShape

/-- What can be shown to a union: any raw value, and any instance of a session in which the union
has come into being. -/
inductive Subject.Arises (union : Union) : Subject → Prop
  | raw (value : Json) : Arises union (.raw value)
  | tagged {engine : PatternEngine} {session : Session} {made : Instance}
      (reachable : Session.Reachable engine session) (member : made ∈ session.made)
      (known : session.Knows union.asType) : Arises union (.tagged made)

namespace Union

/-! ### Members and variants -/

theorem mem_matching_iff {union : Union} {value : Json} {name : String} :
    name ∈ union.matching value ↔
      ∃ variant ∈ union.variants, variant.2.accepts value = true ∧ variant.1 = name := by
  simp only [matching, Table.keys, List.mem_map, List.mem_filter, and_assoc]

/-- Some variant accepts a value if the union as a type accepts it. -/
theorem matching_ne_nil_iff {union : Union} {value : Json} :
    union.matching value ≠ [] ↔ union.asType.accepts value = true := by
  rw [asType, Descriptor.accepts_sum_iff]
  constructor
  · intro nonempty
    obtain ⟨name, member⟩ := List.exists_mem_of_ne_nil _ nonempty
    obtain ⟨variant, variantMember, accepted, _⟩ := mem_matching_iff.mp member
    exact ⟨variant, variantMember, accepted⟩
  · rintro ⟨variant, variantMember, accepted⟩
    exact List.ne_nil_of_mem (mem_matching_iff.mpr ⟨variant, variantMember, accepted, rfl⟩)

theorem firstAccepting?_eq_head? (union : Union) (value : Json) :
    union.firstAccepting? value = (union.matching value).head? := by
  rw [firstAccepting?, matching, Table.keys, List.head?_map, List.head?_filter]

/-- The name for a tag is that of a variant with this identity. -/
theorem exists_variant_of_tag {union : Union} {tag : Identity} {name : String}
    (found : union.variantOfTag? tag = some name) :
    ∃ variant ∈ union.variants, variant.2.identity = tag ∧ variant.1 = name := by
  obtain ⟨variant, first, rfl⟩ := Option.map_eq_some_iff.mp found
  exact ⟨variant, List.mem_of_find?_eq_some first,
    of_decide_eq_true (List.find?_some
      (p := fun variant : String × Descriptor => decide (variant.2.identity = tag)) first), rfl⟩

/-- An instance that is dispatched by its tag is accepted by the variant of the tag. -/
theorem mem_matching_of_tag {union : Union} {made : Instance} {name : String}
    (arises : (Subject.tagged made).Arises union)
    (found : union.variantOfTag? made.descriptor.identity = some name) :
    name ∈ union.matching made.value := by
  obtain ⟨variant, member, same, named⟩ := exists_variant_of_tag found
  cases arises with
  | tagged reachable made known =>
    obtain ⟨pool, backed⟩ := reachable.backed
    have inPool : variant.2 ∈ pool :=
      backed.coherent.closed _ (backed.known known) _ (List.mem_map_of_mem member)
    have accepted := backed.accepts_of_identity made inPool same.symm
    exact mem_matching_iff.mpr ⟨variant, member, accepted, named⟩

/-- The variant a value is dispatched to is one of those that accept it. -/
theorem mem_matching_of_variantOf? {union : Union} {subject : Subject}
    (arises : subject.Arises union) {name : String} (found : union.variantOf? subject = some name) :
    name ∈ union.matching subject.value := by
  unfold variantOf? at found
  split at found
  · rename_i byTag tagFound
    obtain rfl := Option.some.inj found
    cases subject with
    | raw value => cases tagFound
    | tagged made => exact mem_matching_of_tag arises tagFound
  · rw [firstAccepting?_eq_head?] at found
    exact List.mem_of_head? found

/-- A value is dispatched if some variant accepts it. -/
theorem exists_variantOf?_iff {union : Union} {subject : Subject} (arises : subject.Arises union) :
    (∃ name, union.variantOf? subject = some name) ↔ union.matching subject.value ≠ [] := by
  constructor
  · rintro ⟨name, found⟩
    exact List.ne_nil_of_mem (mem_matching_of_variantOf? arises found)
  · intro nonempty
    unfold variantOf?
    split
    · exact ⟨_, rfl⟩
    · rw [firstAccepting?_eq_head?]
      exact ⟨_, List.head?_eq_some_head nonempty⟩

/-- A value is a member of a union if some variant accepts it. -/
theorem is_eq_true_iff {union : Union} {subject : Subject} (arises : subject.Arises union) :
    union.is subject = true ↔ union.matching subject.value ≠ [] := by
  rw [matching_ne_nil_iff]
  cases arises with
  | raw value => exact Iff.rfl
  | tagged reachable member known =>
    obtain ⟨pool, backed⟩ := reachable.backed
    rw [is, backed.is_tagged member (backed.known known)]
    exact Iff.rfl

theorem variantOf?_eq_none_iff {union : Union} {subject : Subject}
    (arises : subject.Arises union) :
    union.variantOf? subject = none ↔ union.is subject = false := by
  rw [← Bool.not_eq_true, is_eq_true_iff arises, ← exists_variantOf?_iff arises]
  simp only [not_exists, Option.eq_none_iff_forall_ne_some]

/-! ### Handlers -/

/-- A dispatch fails for want of a variant or for want of a handler. -/
theorem case_eq_error_iff {Result : Type} {union : Union} {subject : Subject}
    {handlers : Table (Json → Result)} {error : DispatchError} :
    union.case subject handlers = .error error ↔
      (union.variantOf? subject = none ∧ error = .noVariantMatched union.name subject.value) ∨
        ∃ name, union.variantOf? subject = some name ∧ Table.find? handlers name = none ∧
          error = .missingHandler union.name name := by
  unfold case
  cases union.variantOf? subject with
  | none => simp [eq_comm]
  | some name =>
    cases found : Table.find? handlers name with
    | none => simp [found, eq_comm]
    | some handler => simp [found]

theorem case_eq_ok_iff {Result : Type} {union : Union} {subject : Subject}
    {handlers : Table (Json → Result)} {result : Result} :
    union.case subject handlers = .ok result ↔
      ∃ name handler, union.variantOf? subject = some name ∧
        Table.find? handlers name = some handler ∧ result = handler subject.value := by
  unfold case
  cases union.variantOf? subject with
  | none => simp
  | some name =>
    cases found : Table.find? handlers name with
    | none => simp [found]
    | some handler => simp [found, eq_comm]

/-- No handler is found under a name if none was registered under it. -/
theorem find?_handlers_eq_none_iff {Handler : Type} {arms : List (String × Handler)}
    {name : String} :
    Table.find? (Table.ofList arms) name = none ↔ name ∉ Table.keys arms := by
  rw [Table.find?_ofList, Table.find?_eq_none_iff, Table.keys, List.map_reverse,
    List.mem_reverse, Table.keys]

/-- The views of a union agree on every raw value and on every instance of a session. A member is
what has a variant to be dispatched to, and what some variant accepts; the variant it is
dispatched to is one of the accepting ones, and for a raw value the first of them. A dispatch to
handlers that were registered one after the other fails exactly for what is no member and for what
has a variant without a handler, and otherwise gives the result of the last handler that was
registered for the variant, applied to the plain value. -/
theorem views_agree (union : Union) (subject : Subject) (arises : subject.Arises union) :
    (union.is subject = true ↔ ∃ name, union.variantOf? subject = some name) ∧
      (union.is subject = true ↔ union.matching subject.value ≠ []) ∧
      (∀ name, union.variantOf? subject = some name → name ∈ union.matching subject.value) ∧
      (∀ value, subject = .raw value →
        union.variantOf? subject = (union.matching value).head?) ∧
      ∀ (Result : Type) (arms : List (String × (Json → Result))),
        (∀ error, union.case subject (Table.ofList arms) = .error error ↔
          (union.is subject = false ∧ error = .noVariantMatched union.name subject.value) ∨
            ∃ name, union.variantOf? subject = some name ∧ name ∉ Table.keys arms ∧
              error = .missingHandler union.name name) ∧
        ∀ result, union.case subject (Table.ofList arms) = .ok result ↔
          ∃ name handler, union.variantOf? subject = some name ∧
            Table.find? arms.reverse name = some handler ∧ result = handler subject.value := by
  have dispatched := exists_variantOf?_iff arises
  have member := is_eq_true_iff arises
  refine ⟨member.trans dispatched.symm, member,
    fun name found => mem_matching_of_variantOf? arises found, ?_, fun Result arms => ⟨?_, ?_⟩⟩
  · rintro value rfl
    exact firstAccepting?_eq_head? union value
  · intro error
    rw [case_eq_error_iff, variantOf?_eq_none_iff arises]
    simp only [find?_handlers_eq_none_iff]
  · intro result
    rw [case_eq_ok_iff]
    simp only [Table.find?_ofList]

/-- A number that was constructed as a remark goes to the later of the two handlers for remarks; the
bare number goes to the first variant, for which no handler was registered. -/
theorem views_agree_remark :
    let amount : Descriptor := .variant (.made 0) "Amount" Standard.number
    let remark : Descriptor := .variant (.made 1) "Remark" Standard.any
    let reading : Union := ⟨.made 2, "Reading", [("Amount", amount), ("Remark", remark)]⟩
    let zero : Json := .number (.float (.zero false))
    let made : Instance := ⟨remark, zero⟩
    let arms : List (String × (Json → String)) :=
      [("Remark", fun _ => "early"), ("Remark", fun value => "late " ++ value.text)]
    (Subject.tagged made).Arises reading ∧ reading.is (.tagged made) = true ∧
      reading.matching zero = ["Amount", "Remark"] ∧
      reading.case (.tagged made) (Table.ofList arms) = .ok "late 0.0" ∧
      reading.case (.raw zero) (Table.ofList arms) =
        .error (.missingHandler "Reading" "Amount") := by
  intro amount remark reading zero made arms
  let opened : Session := Session.start.hold reading.asType ⟨3⟩
  have refers : (FieldSpec.record [("Amount", .primitive .number), ("Remark",
      .type Standard.any)]).Over Session.start.Knows := by
    refine FieldSpec.over_record_iff.mpr ⟨by decide, List.forall_mem_cons.mpr
      ⟨.primitive .number, List.forall_mem_singleton.mpr (.type ?_)⟩⟩
    exact .of_standard (by simp [standardPool, Standard.all])
  have done : makeUnion "Reading" [("Amount", .primitive .number), ("Remark",
      .type Standard.any)] Session.start.supply = .ok (reading, ⟨3⟩) := rfl
  have unionStep : Session.Step Pattern.engine Session.start opened := .makeUnion refers done
  have known : opened.Knows reading.asType := .of_held List.mem_cons_self
  have reached : reading.construct "Remark" zero = .ok (remark.construct zero) := rfl
  have variantStep : Session.Step Pattern.engine opened (opened.keep made) :=
    .constructVariant known reached rfl
  have arises : (Subject.tagged made).Arises reading :=
    .tagged (.step (.step .start unionStep) variantStep) List.mem_cons_self
      (.of_held List.mem_cons_self)
  obtain ⟨dispatched, _, _, _, handled⟩ := views_agree reading (.tagged made) arises
  obtain ⟨_, _, _, _, handledRaw⟩ := views_agree reading (.raw zero) (.raw zero)
  have byTag : reading.variantOf? (.tagged made) = some "Remark" := rfl
  have first : reading.variantOf? (.raw zero) = some "Amount" := rfl
  refine ⟨arises, dispatched.mpr ⟨_, byTag⟩, rfl, ?_, ?_⟩
  · exact ((handled String arms).2 _).mpr ⟨"Remark", _, byTag, rfl, rfl⟩
  · exact ((handledRaw String arms).1 _).mpr (Or.inr ⟨"Amount", first, by decide, rfl⟩)

end Union

end JsonShape
