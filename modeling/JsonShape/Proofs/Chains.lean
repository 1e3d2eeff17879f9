/-
This file compares what a chain of refinements accepts with what its schema says. A value
is accepted if the standard type at the beginning of the chain accepts it and every link
admits it, because each link tests its base and adds its own keywords to the test. The
schema is not made in this way. Each link writes its keywords into the schema of its
base, so of a keyword that several links give only the newest one is left
(`kept`), and the schema asks for no more than that.

The two agree if no link that repeats a keyword loosens it (`Refinement.Tightens`), and a
link that does makes the schema hold of values that the type refuses.
-/

import JsonShape.Pattern.Basic
import JsonShape.Proofs.History
import JsonShape.Proofs.Schemas

namespace JsonShape

variable {engine : PatternEngine}

open Registry Schema

/-! ### Links -/

namespace Refinement

/-- The pattern matches the value, if that is a string, and the value is a number between the
bounds, if there are any. -/
structure Admits (engine : PatternEngine) (refinement : Refinement) (value : Json) : Prop where
  pattern : ∀ source ∈ refinement.pattern, matchesPattern engine source value = true
  minimum : ∀ low ∈ refinement.minimum,
    boundHolds (some low) (fun bound number => bound.le number) value = true
  maximum : ∀ high ∈ refinement.maximum,
    boundHolds (some high) (fun bound number => number.le bound) value = true

/-- A pattern is asked of strings only, and bounds are asked of numbers only. -/
structure Suits (refinement : Refinement) (kind : Primitive) : Prop where
  pattern : ∀ source ∈ refinement.pattern, kind = .string
  minimum : ∀ low ∈ refinement.minimum, kind = .number
  maximum : ∀ high ∈ refinement.maximum, kind = .number

instance (refinement : Refinement) (kind : Primitive) : Decidable (refinement.Suits kind) :=
  decidable_of_iff ((∀ source ∈ refinement.pattern, kind = .string) ∧
      (∀ low ∈ refinement.minimum, kind = .number) ∧ ∀ high ∈ refinement.maximum, kind = .number)
    ⟨fun ⟨pattern, minimum, maximum⟩ => ⟨pattern, minimum, maximum⟩,
      fun ⟨pattern, minimum, maximum⟩ => ⟨pattern, minimum, maximum⟩⟩

/-- Where both refinements give a keyword, the newer one asks for at least as much. -/
structure Tightens (newer older : Refinement) : Prop where
  pattern : ∀ source ∈ newer.pattern, ∀ old ∈ older.pattern, source = old
  minimum : ∀ low ∈ newer.minimum, ∀ old ∈ older.minimum, old.le low = true
  maximum : ∀ high ∈ newer.maximum, ∀ old ∈ older.maximum, high.le old = true

instance (newer older : Refinement) : Decidable (newer.Tightens older) :=
  decidable_of_iff ((∀ source ∈ newer.pattern, ∀ old ∈ older.pattern, source = old) ∧
      (∀ low ∈ newer.minimum, ∀ old ∈ older.minimum, old.le low = true) ∧
      ∀ high ∈ newer.maximum, ∀ old ∈ older.maximum, high.le old = true)
    ⟨fun ⟨pattern, minimum, maximum⟩ => ⟨pattern, minimum, maximum⟩,
      fun ⟨pattern, minimum, maximum⟩ => ⟨pattern, minimum, maximum⟩⟩

end Refinement

/-- The keywords that are left of a chain: each of them from the newest link that gives it. -/
def kept (base : String) (links : List Refinement) : Refinement where
  base := base
  pattern := links.findSome? Refinement.pattern
  minimum := links.findSome? Refinement.minimum
  maximum := links.findSome? Refinement.maximum

/-- A chain of declared refinements from a raw kind to a name, the newest link first. -/
inductive Chain (declarations : List (String × Declaration)) (kind : Primitive) :
    String → List Refinement → Prop
  | start : Chain declarations kind kind.descriptor.name []
  | refine {name : String} {refinement : Refinement} {links : List Refinement}
      (below : Chain declarations kind refinement.base links)
      (declared : (name, .refine refinement) ∈ declarations) :
      Chain declarations kind name (refinement :: links)

/-! ### Kinds -/

namespace Primitive

/-- The word for the values of the kind. -/
def word : Primitive → String
  | string => "string"
  | number => "number"
  | boolean => "boolean"
  | array => "array"
  | object => "object"

theorem schema_descriptor (kind : Primitive) : kind.descriptor.schema = kindSchema kind.word := by
  cases kind <;> rfl

theorem accepts_descriptor_iff {kind : Primitive} {value : Json} :
    kind.descriptor.accepts value = true ↔ kind.word = kindOf value := by
  cases kind <;> cases value <;>
    simp [Primitive.descriptor, Standard.string, Standard.number, Standard.boolean,
      Standard.array, Standard.object, Standard.scalar, Descriptor.accepts, word, kindOf,
      Json.isString, Json.isNumber, Json.isBoolean, Json.isArray, Json.isObject]

theorem standard_type? (kind : Primitive) :
    standard.type? kind.descriptor.name = some kind.descriptor := by
  cases kind <;> rfl

end Primitive

/-! ### What a chain accepts -/

theorem boundHolds_iff_forall {bound : Option Binary64} {test : Binary64 → Binary64 → Bool}
    {value : Json} :
    boundHolds bound test value = true ↔
      ∀ given ∈ bound, boundHolds (some given) test value = true := by
  cases bound <;> simp [boundHolds]

/-- On the values of the kind, a refinement tests what its keywords ask for. -/
theorem Refinement.Suits.admits_iff {refinement : Refinement} {kind : Primitive}
    (suits : refinement.Suits kind) {name : String} {pattern : Option Matcher}
    (compiled : compilePattern engine name refinement = .ok pattern) {value : Json}
    (member : kind.descriptor.accepts value = true) :
    refinement.Admits engine value ↔ patternHolds pattern value = true ∧
      boundHolds refinement.minimum (fun bound number => bound.le number) value = true ∧
      boundHolds refinement.maximum (fun bound number => number.le bound) value = true := by
  have matched : (∀ source ∈ refinement.pattern, matchesPattern engine source value = true) ↔
      patternHolds pattern value = true := by
    rcases compilePattern_eq_ok_iff.mp compiled with
      ⟨given, rfl⟩ | ⟨source, matchesIn, given, read, rfl⟩
    · simp [given, patternHolds]
    · obtain rfl := suits.pattern source given
      cases value with
      | string text => simp [given, read, patternHolds, matchesPattern, Json.string?]
      | null | bool | number | array | object => cases member
  rw [← matched, boundHolds_iff_forall, boundHolds_iff_forall]
  constructor
  · rintro ⟨pattern, minimum, maximum⟩
    exact ⟨pattern, minimum, maximum⟩
  · rintro ⟨pattern, minimum, maximum⟩
    exact ⟨pattern, minimum, maximum⟩

/-- The type at the end of a chain accepts the values of the kind that every link admits. -/
theorem Chain.accepts {calls : List Call} {kind : Primitive} {name : String}
    {links : List Refinement} (chain : Chain (standard.history engine calls) kind name links)
    (suits : ∀ link ∈ links, link.Suits kind) :
    ∃ type, (standard.run engine calls).type? name = some type ∧ ∀ value,
      type.accepts value = true ↔
        kind.descriptor.accepts value = true ∧ ∀ link ∈ links, link.Admits engine value := by
  induction chain with
  | start =>
    refine ⟨kind.descriptor, type?_run kind.standard_type? calls, fun value => ?_⟩
    exact (and_iff_left (List.forall_mem_nil _)).symm
  | refine below declared inductionHypothesis =>
    obtain ⟨ofNewest, ofOthers⟩ := List.forall_mem_cons.mp suits
    obtain ⟨base, foundBase, acceptsBase⟩ := inductionHypothesis ofOthers
    obtain ⟨type, other, pattern, found, foundOther, compiled, accepts, _⟩ :=
      history_refine declared
    obtain rfl := Option.some.inj (foundBase.symm.trans foundOther)
    refine ⟨type, found, fun value => ?_⟩
    rw [accepts, refinedPredicate_eq_true_iff, acceptsBase, List.forall_mem_cons, and_assoc]
    refine and_congr_right fun member => ?_
    rw [ofNewest.admits_iff compiled member, and_comm]

/-! ### What a chain writes into its schema -/

/-- The table with a content written into it, if there is one. -/
def put {Content : Type} (table : Table Content) (key : String) (content : Option Content) :
    Table Content :=
  content.elim table (Table.insert table key)

section Put

variable {Content : Type} {table : Table Content} {key : String} {content : Option Content}

theorem optionalMember_object {clauses : Table Json} {content : Option Json} :
    optionalMember (.object clauses) key content = .object (put clauses key content) := by
  cases content <;> rfl

theorem find?_put (other : String) :
    Table.find? (put table key content) other =
      if key = other then content.or (Table.find? table other) else Table.find? table other := by
  cases content with
  | none => simp [put]
  | some content =>
    split
    · rename_i same
      exact same ▸ Table.find?_insert_self table key content
    · rename_i different
      exact Table.find?_insert_other table key other content different

theorem nodup_keys_put (distinct : (Table.keys table).Nodup) :
    (Table.keys (put table key content)).Nodup := by
  cases content with
  | none => exact distinct
  | some content => exact Table.nodup_keys_insert table key content distinct

theorem keys_put_subset {names : List String} (known : ∀ other ∈ Table.keys table, other ∈ names)
    (new : key ∈ names) : ∀ other ∈ Table.keys (put table key content), other ∈ names := by
  cases content with
  | none => exact known
  | some content =>
    rw [put, Option.elim, Table.keys_insert]
    split
    · exact known
    · exact List.forall_mem_append.mpr ⟨known, List.forall_mem_singleton.mpr new⟩

end Put

/-- The keywords of which the schemas of refined strings and numbers consist. -/
def refinedKeywords : List String := ["type", "title", "pattern", "minimum", "maximum"]

/-- The clauses ask for a kind of values and for what the refinement asks, each keyword once. -/
structure Writes (word : String) (refinement : Refinement) (clauses : Table Json) : Prop where
  distinct : (Table.keys clauses).Nodup
  known : ∀ keyword ∈ Table.keys clauses, keyword ∈ refinedKeywords
  type : Table.find? clauses "type" = some (.string word)
  pattern : Table.find? clauses "pattern" = refinement.pattern.map .string
  minimum : Table.find? clauses "minimum" =
    refinement.minimum.map fun bound => .number (.float bound)
  maximum : Table.find? clauses "maximum" =
    refinement.maximum.map fun bound => .number (.float bound)

theorem findSome?_cons_eq_or {Link Content : Type} (give : Link → Option Content) (link : Link)
    (links : List Link) :
    (link :: links).findSome? give = (give link).or (links.findSome? give) := by
  rw [List.findSome?_cons]
  cases give link <;> rfl

/-- A link writes its own keywords over those that are there. -/
theorem Writes.refine {word first : String} {links : List Refinement} {clauses : Table Json}
    (writes : Writes word (kept first links) clauses) (name : String) {base : Descriptor}
    (schema : base.schema = .object clauses) (refinement : Refinement) :
    ∃ clauses, refinedSchema name base refinement = .object clauses ∧
      Writes word (kept first (refinement :: links)) clauses := by
  refine ⟨put (put (put (put clauses "title" (some (.string name))) "pattern"
    (refinement.pattern.map .string)) "minimum"
    (refinement.minimum.map fun bound => .number (.float bound))) "maximum"
    (refinement.maximum.map fun bound => .number (.float bound)), ?_, ?_⟩
  · rw [refinedSchema, schema, ← optionalMember_object, ← optionalMember_object,
      ← optionalMember_object]
    rfl
  · refine ⟨nodup_keys_put (nodup_keys_put (nodup_keys_put (nodup_keys_put writes.distinct))),
      keys_put_subset (keys_put_subset (keys_put_subset (keys_put_subset writes.known ?_) ?_) ?_)
        ?_, ?_, ?_, ?_, ?_⟩
    iterate 4 decide
    · simp [find?_put, writes.type]
    · simp [find?_put, writes.pattern, kept, findSome?_cons_eq_or, Option.map_or]
    · simp [find?_put, writes.minimum, kept, findSome?_cons_eq_or, Option.map_or]
    · simp [find?_put, writes.maximum, kept, findSome?_cons_eq_or, Option.map_or]

/-- The schema of the type at the end of a chain consists of the clauses of its kind and of what is
left of the links. -/
theorem Chain.schema {calls : List Call} {kind : Primitive} {name : String}
    {links : List Refinement} (chain : Chain (standard.history engine calls) kind name links) :
    ∃ type clauses, (standard.run engine calls).type? name = some type ∧
      type.schema = .object clauses ∧
      Writes kind.word (kept kind.descriptor.name links) clauses := by
  induction chain with
  | start =>
    refine ⟨kind.descriptor, _, type?_run kind.standard_type? calls, kind.schema_descriptor, ?_⟩
    constructor
    · exact List.nodup_singleton _
    · exact List.forall_mem_singleton.mpr (by decide : "type" ∈ refinedKeywords)
    all_goals rfl
  | refine below declared inductionHypothesis =>
    obtain ⟨base, clauses, foundBase, schema, writes⟩ := inductionHypothesis
    obtain ⟨type, other, pattern, found, foundOther, _, _, described⟩ := history_refine declared
    obtain rfl := Option.some.inj (foundBase.symm.trans foundOther)
    obtain ⟨written, equal, writes⟩ := writes.refine _ schema _
    exact ⟨type, written, found, described.trans equal, writes⟩

/-- The clauses hold of the values of the kind of which those of the keywords hold. -/
theorem Writes.validates_iff {word : String} {refinement : Refinement} {clauses : Table Json}
    (writes : Writes word refinement clauses) {reading : Reading} {value : Json} :
    validates engine reading (.object clauses) value = true ↔ word = kindOf value ∧
      (∀ source ∈ refinement.pattern, matchesPattern engine source value = true) ∧
      (∀ low ∈ refinement.minimum,
        holds engine reading ("minimum", .number (.float low)) value = true) ∧
      ∀ high ∈ refinement.maximum,
        holds engine reading ("maximum", .number (.float high)) value = true := by
  rw [validates_object_iff]
  constructor
  · intro each
    have found : ∀ {keyword content}, Table.find? clauses keyword = some content →
        holds engine reading (keyword, content) value = true :=
      fun found => each _ (Table.mem_of_find? found)
    refine ⟨?_, fun source given => ?_, fun low given => ?_, fun high given => ?_⟩
    · have kind := found writes.type
      rwa [holds_type, beq_iff_eq] at kind
    · rw [← holds_pattern]
      exact found (writes.pattern.trans (by rw [Option.mem_def.mp given]; rfl))
    · exact found (writes.minimum.trans (by rw [Option.mem_def.mp given]; rfl))
    · exact found (writes.maximum.trans (by rw [Option.mem_def.mp given]; rfl))
  · rintro ⟨kind, pattern, minimum, maximum⟩ ⟨keyword, content⟩ member
    have found : Table.find? clauses keyword = some content :=
      Table.find?_of_mem writes.distinct member
    have known := writes.known keyword (List.mem_map_of_mem member)
    simp only [refinedKeywords, List.mem_cons, List.not_mem_nil, or_false] at known
    rcases known with rfl | rfl | rfl | rfl | rfl
    · obtain rfl := Option.some.inj (writes.type.symm.trans found)
      rw [holds_type, kind, beq_self_eq_true]
    · exact holds_title
    · obtain ⟨source, given, rfl⟩ := Option.map_eq_some_iff.mp (writes.pattern.symm.trans found)
      rw [holds_pattern]
      exact pattern source given
    · obtain ⟨low, given, rfl⟩ := Option.map_eq_some_iff.mp (writes.minimum.symm.trans found)
      exact minimum low given
    · obtain ⟨high, given, rfl⟩ := Option.map_eq_some_iff.mp (writes.maximum.symm.trans found)
      exact maximum high given

/-! ### Where the two agree -/

/-- In the reading of membership, bounds of numbers are what the refinement tests. -/
theorem holds_minimum_membership (low : Binary64) (number : Number) :
    holds engine .membership ("minimum", .number (.float low)) (.number number) =
      boundHolds (some low) (fun bound number => bound.le number) (.number number) := by
  rw [holds_minimum]
  show Number.roundedAtMost (.float low) number = _
  rw [Number.roundedAtMost, boundHolds, Json.binary64?]
  cases number.toBinary64? <;> rfl

theorem holds_maximum_membership (high : Binary64) (number : Number) :
    holds engine .membership ("maximum", .number (.float high)) (.number number) =
      boundHolds (some high) (fun bound number => number.le bound) (.number number) := by
  rw [holds_maximum]
  show Number.roundedAtMost number (.float high) = _
  rw [Number.roundedAtMost, boundHolds, Json.binary64?]
  cases number.toBinary64? <;> rfl

/-- What is left of a keyword is asked for by one of the links. -/
theorem forall_mem_findSome? {Link Content : Type} {give : Link → Option Content}
    {Holds : Content → Prop} {links : List Link}
    (each : ∀ link ∈ links, ∀ content ∈ give link, Holds content) :
    ∀ content ∈ links.findSome? give, Holds content := by
  intro content found
  obtain ⟨link, member, given⟩ := List.exists_of_findSome?_eq_some found
  exact each link member content given

/-- If the contents of newer links imply those of older ones, what is left of a keyword implies all
of them. -/
theorem forall_mem_of_findSome? {Link Content : Type} {give : Link → Option Content}
    {Holds : Content → Prop} {links : List Link}
    (tightens : links.Pairwise fun newer older =>
      ∀ content ∈ give newer, ∀ old ∈ give older, Holds content → Holds old)
    (left : ∀ content ∈ links.findSome? give, Holds content) :
    ∀ link ∈ links, ∀ content ∈ give link, Holds content := by
  induction links with
  | nil => exact List.forall_mem_nil _
  | cons newest links inductionHypothesis =>
    obtain ⟨first, others⟩ := List.pairwise_cons.mp tightens
    rw [findSome?_cons_eq_or] at left
    cases given : give newest with
    | none =>
      rw [given, Option.none_or] at left
      exact List.forall_mem_cons.mpr ⟨by simp [given], inductionHypothesis others left⟩
    | some content =>
      rw [given, Option.some_or] at left
      have holds := left content rfl
      refine List.forall_mem_cons.mpr ⟨?_, fun link member old => ?_⟩
      · rw [given]
        exact left
      · exact fun there => first link member content given old there holds

theorem boundHolds_of_le {bound other : Binary64} {test : Binary64 → Binary64 → Bool}
    {value : Json} (implies : ∀ number, test bound number = true → test other number = true)
    (held : boundHolds (some bound) test value = true) :
    boundHolds (some other) test value = true := by
  obtain ⟨number, rounded, rfl, float, passed⟩ := exists_number_of_boundHolds held
  rw [boundHolds, Json.binary64?, float]
  exact implies rounded passed

theorem Binary64.le_trans {first second third : Binary64} (le : first.le second = true)
    (further : second.le third = true) : first.le third = true := by
  simp only [Binary64.le, decide_eq_true_eq] at *
  omega

theorem Refinement.Suits.kept {kind : Primitive} {links : List Refinement}
    (suits : ∀ link ∈ links, link.Suits kind) (base : String) : (kept base links).Suits kind where
  pattern := forall_mem_findSome? fun link member => (suits link member).pattern
  minimum := forall_mem_findSome? fun link member => (suits link member).minimum
  maximum := forall_mem_findSome? fun link member => (suits link member).maximum

/-- What is left of a chain admits what every link admits. -/
theorem admits_kept {links : List Refinement} {base : String} {value : Json}
    (each : ∀ link ∈ links, link.Admits engine value) : (kept base links).Admits engine value where
  pattern := forall_mem_findSome? fun link member => (each link member).pattern
  minimum := forall_mem_findSome? fun link member => (each link member).minimum
  maximum := forall_mem_findSome? fun link member => (each link member).maximum

/-- It admits nothing else if no link loosens what an older one asks for. -/
theorem admits_of_kept {links : List Refinement} {base : String} {value : Json}
    (tightens : links.Pairwise Refinement.Tightens) (left : (kept base links).Admits engine value) :
    ∀ link ∈ links, link.Admits engine value := by
  intro link member
  refine ⟨forall_mem_of_findSome? (tightens.imp ?_) left.pattern link member,
    forall_mem_of_findSome? (tightens.imp ?_) left.minimum link member,
    forall_mem_of_findSome? (tightens.imp ?_) left.maximum link member⟩
  · intro newer older tightens source given old there matched
    exact tightens.pattern source given old there ▸ matched
  · intro newer older tightens low given old there
    have below := tightens.minimum low given old there
    exact boundHolds_of_le fun _ above => Binary64.le_trans below above
  · intro newer older tightens high given old there
    have above := tightens.maximum high given old there
    exact boundHolds_of_le fun _ below => Binary64.le_trans below above

/-- A schema that is written for a refinement of a kind holds, in the reading of membership, of the
values of the kind that the refinement admits. -/
theorem Writes.validates_membership_iff {kind : Primitive} {refinement : Refinement}
    {clauses : Table Json} (writes : Writes kind.word refinement clauses)
    (suits : refinement.Suits kind) {value : Json} :
    validates engine .membership (.object clauses) value = true ↔
      kind.descriptor.accepts value = true ∧ refinement.Admits engine value := by
  rw [writes.validates_iff, kind.accepts_descriptor_iff]
  refine and_congr_right fun member => ?_
  have number {content : Option Binary64} (bounded : ∀ given ∈ content, kind = .number)
      {given : Binary64} (there : given ∈ content) : ∃ number, value = .number number := by
    obtain rfl := bounded given there
    cases value with
    | number number => exact ⟨number, rfl⟩
    | null | bool | string | array | object => simp [Primitive.word, kindOf] at member
  constructor
  · rintro ⟨pattern, minimum, maximum⟩
    refine ⟨pattern, fun low given => ?_, fun high given => ?_⟩
    · obtain ⟨number, rfl⟩ := number suits.minimum given
      rw [← holds_minimum_membership]
      exact minimum low given
    · obtain ⟨number, rfl⟩ := number suits.maximum given
      rw [← holds_maximum_membership]
      exact maximum high given
  · rintro ⟨pattern, minimum, maximum⟩
    exact ⟨pattern, fun low given => holds_minimum_of_boundHolds (minimum low given),
      fun high given => holds_maximum_of_boundHolds (maximum high given)⟩

/-- The type at the end of a chain over a raw kind accepts exactly the values of the kind that every
link admits. The schema asks, in the reading of membership, only for what is left of each keyword.
So it holds of everything that the type accepts, and of nothing else if no link loosens what an
older one asks for. -/
theorem Chain.accepts_and_validates {calls : List Call} {kind : Primitive} {name : String}
    {links : List Refinement} (chain : Chain (standard.history engine calls) kind name links)
    (suits : ∀ link ∈ links, link.Suits kind) :
    ∃ type, (standard.run engine calls).type? name = some type ∧ ∀ value,
      (type.is (.raw value) = true ↔
        kind.descriptor.accepts value = true ∧ ∀ link ∈ links, link.Admits engine value) ∧
      (validates engine .membership type.schema value = true ↔
        kind.descriptor.accepts value = true ∧
          (kept kind.descriptor.name links).Admits engine value) ∧
      (type.is (.raw value) = true → validates engine .membership type.schema value = true) ∧
      (links.Pairwise Refinement.Tightens →
        validates engine .membership type.schema value = true → type.is (.raw value) = true) := by
  obtain ⟨type, found, accepts⟩ := chain.accepts suits
  obtain ⟨other, clauses, foundOther, schema, writes⟩ := chain.schema
  obtain rfl := Option.some.inj (found.symm.trans foundOther)
  refine ⟨type, found, fun value => ?_⟩
  rw [Descriptor.is_raw, schema, accepts,
    writes.validates_membership_iff (.kept suits kind.descriptor.name)]
  exact ⟨.rfl, .rfl, fun ⟨member, each⟩ => ⟨member, admits_kept each⟩,
    fun tightens ⟨member, left⟩ => ⟨member, admits_of_kept tightens left⟩⟩

/-- A text with marks that are at most 6, and with those of which that are at most 4. -/
def marks : String :=
  "\x7b\"types\":\x7b\"Mark\":\x7b\"refine\":\x7b\"base\":\"Number\",\"maximum\":6\x7d\x7d,
\"Pass\":\x7b\"refine\":\x7b\"base\":\"Mark\",\"maximum\":4\x7d\x7d\x7d\x7d"

/-- A text that sets the bound of the latter back to 6. -/
def mercy : String :=
  "\x7b\"types\":\x7b\"Mercy\":\x7b\"refine\":\x7b\"base\":\"Pass\",\"maximum\":6\x7d\x7d\x7d\x7d"

/-- The two texts, loaded one after the other. -/
def marking : List Call := [.load marks .full, .load mercy ⟨2⟩]

/-- The float 4. -/
def four : Binary64 := ⟨false, 1 <<< 1076, ⟨1, 1076, by decide, rfl⟩, by decide⟩

/-- The float 6. -/
def six : Binary64 := ⟨false, 3 <<< 1075, ⟨3, 1075, by decide, rfl⟩, by decide⟩

/-- The integer 3. -/
def three : Json := .number (.integer ⟨3, by decide, by decide⟩)

/-- The integer 5. -/
def five : Json := .number (.integer ⟨5, by decide, by decide⟩)

/-- What the two texts declare, whether the stricter type accepts 3 and 5, and whether the last type
accepts 5 and its schema holds of it. -/
theorem marking_run :
    refinements (standard.history Pattern.engine marking) =
        [("Mark", ⟨"Number", none, none, some six⟩), ("Pass", ⟨"Mark", none, none, some four⟩),
          ("Mercy", ⟨"Pass", none, none, some six⟩)] ∧
      ((standard.run Pattern.engine marking).type? "Pass").map (fun type =>
        (type.is (.raw three), type.is (.raw five))) = some (true, false) ∧
      ((standard.run Pattern.engine marking).type? "Mercy").map (fun type =>
        (type.is (.raw five), validates Pattern.engine .membership type.schema five)) =
        some (false, true) := by
  decide +kernel

theorem chain_mark :
    Chain (standard.history Pattern.engine marking) .number "Mark"
      [⟨"Number", none, none, some six⟩] :=
  .refine .start (mem_refinements_iff.mp (marking_run.1 ▸ .head _))

theorem chain_pass :
    Chain (standard.history Pattern.engine marking) .number "Pass"
      [⟨"Mark", none, none, some four⟩, ⟨"Number", none, none, some six⟩] :=
  .refine chain_mark (mem_refinements_iff.mp (marking_run.1 ▸ .tail _ (.head _)))

/-- This chain tightens a bound, so its schema tells a mark that the type accepts from one that it
refuses. -/
theorem Chain.accepts_and_validates_pass :
    let links : List Refinement :=
      [⟨"Mark", none, none, some four⟩, ⟨"Number", none, none, some six⟩]
    Chain (standard.history Pattern.engine marking) .number "Pass" links ∧
      (∀ link ∈ links, link.Suits .number) ∧ links.Pairwise Refinement.Tightens ∧
      ∃ type, (standard.run Pattern.engine marking).type? "Pass" = some type ∧
        validates Pattern.engine .membership type.schema three = true ∧
        ¬ validates Pattern.engine .membership type.schema five = true := by
  intro links
  have suits : ∀ link ∈ links, link.Suits .number := by decide +kernel
  have tightens : links.Pairwise Refinement.Tightens := by decide +kernel
  obtain ⟨type, found, each⟩ := chain_pass.accepts_and_validates suits
  obtain ⟨_, accepted, _⟩ := marking_run
  rw [found, Option.map_some, Option.some.injEq, Prod.mk.injEq] at accepted
  obtain ⟨_, _, ofThree, _⟩ := each three
  obtain ⟨_, _, _, ofFive⟩ := each five
  refine ⟨chain_pass, suits, tightens, type, found, ofThree accepted.1, fun valid => ?_⟩
  exact absurd (ofFive tightens valid) (by simp [accepted.2])

/-- The schema of a chain is not as strict as its type. The newest link loosens the bound that the
one before it has set, and the schema keeps nothing but the newest bound, so a mark of 5 validates
although the type refuses it. -/
theorem Chain.not_accepts_of_validates :
    let links : List Refinement := [⟨"Pass", none, none, some six⟩,
      ⟨"Mark", none, none, some four⟩, ⟨"Number", none, none, some six⟩]
    Chain (standard.history Pattern.engine marking) .number "Mercy" links ∧
      (∀ link ∈ links, link.Suits .number) ∧
      ∃ type, (standard.run Pattern.engine marking).type? "Mercy" = some type ∧
        validates Pattern.engine .membership type.schema five = true ∧
        type.is (.raw five) = false := by
  intro links
  have suits : ∀ link ∈ links, link.Suits .number := by decide +kernel
  obtain ⟨declared, _, compared⟩ := marking_run
  obtain ⟨type, found, answers⟩ := Option.map_eq_some_iff.mp compared
  rw [Prod.mk.injEq] at answers
  refine ⟨.refine chain_pass (mem_refinements_iff.mp ?_), suits, type, found, answers.2, answers.1⟩
  exact declared ▸ .tail _ (.tail _ (.head _))

end JsonShape
