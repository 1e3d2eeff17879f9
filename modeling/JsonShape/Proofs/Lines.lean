/-
This file shows that what is printed line by line reads back as documents. A text of
lines that hold no line feed and end in no carriage return is cut into exactly these
lines (`linesOf_printed`). The compact text of a value is such a line, because strings
are written without control characters, and it is not blank; so each of the values that
a check emits is found again on a line of its own, numbered from one
(`emitted_reads_back`).
-/

import JsonShape.Pattern.Basic
import JsonShape.Proofs.Reports
import JsonShape.Proofs.RoundTrip

namespace JsonShape

/-! ### Cutting into lines -/

/-- Up to the first separator there is one piece. -/
theorem pieces_append {separator : Char} {piece : List Char} (clear : separator ∉ piece)
    (rest : List Char) :
    pieces separator (piece ++ separator :: rest) = piece :: pieces separator rest := by
  induction piece with
  | nil => rw [List.nil_append, pieces, if_pos rfl]
  | cons character piece inductionHypothesis =>
    have different : ¬character = separator := fun same => clear (same ▸ List.mem_cons_self)
    have others : separator ∉ piece := fun member => clear (List.mem_cons_of_mem _ member)
    rw [List.cons_append, pieces, if_neg different, inductionHypothesis others, extendFirst]

theorem linesOfPieces_cons (line : List Char) {others : List (List Char)} (more : others ≠ []) :
    linesOfPieces (line :: others) = withoutReturn line :: linesOfPieces others := by
  cases others with
  | nil => exact absurd rfl more
  | cons next others => rfl

theorem printed_cons (line : String) (lines : List String) :
    (printed (line :: lines)).toList = line.toList ++ '\n' :: (printed lines).toList := by
  simp [printed, String.join_cons]

/-- Printed lines are the lines of the text, if none of them holds a line feed or ends in a carriage
return. -/
theorem linesOf_printed {lines : List String}
    (each : ∀ line ∈ lines, '\n' ∉ line.toList ∧ line.toList.getLast? ≠ some '\r') :
    linesOf (printed lines) = lines := by
  unfold linesOf
  induction lines with
  | nil => rfl
  | cons line lines inductionHypothesis =>
    obtain ⟨⟨clear, kept⟩, others⟩ := List.forall_mem_cons.mp each
    rw [printed_cons, pieces_append clear, linesOfPieces_cons _ (pieces_ne_nil _ _),
      withoutReturn, if_neg kept, List.map_cons, String.ofList_toList, inductionHypothesis others]

/-! ### Lines of values -/

/-- Lines on which values are written give these values, numbered from the first line on. -/
theorem documentsOfLines_texts (origin : String) (number : Nat) {values : List Json}
    (each : ∀ value ∈ values, blank value.text = false ∧ Json.read value.text = .ok value) :
    documentsOfLines origin number (values.map Json.text) =
      .ok (values.mapIdx fun index value =>
        ⟨origin ++ ":" ++ toString (number + index), value⟩) := by
  induction values generalizing number with
  | nil => rfl
  | cons value values inductionHypothesis =>
    obtain ⟨⟨written, read⟩, others⟩ := List.forall_mem_cons.mp each
    have shifted (index : Nat) : number + 1 + index = number + (index + 1) := by omega
    rw [List.map_cons, documentsOfLines, written, Document.ofLine, read,
      inductionHypothesis (number + 1) others, List.mapIdx_cons]
    simp only [shifted]
    rfl

namespace Json

/-- The compact text of a value without floats is one line. -/
theorem text_line {value : Json} (floatless : value.floatless = true) :
    '\n' ∉ value.text.toList ∧ value.text.toList.getLast? ≠ some '\r' := by
  have printable := printable_of_mem_compact floatless
  rw [text, String.toList_ofList]
  refine ⟨fun feed => ?_, fun ends => ?_⟩
  · exact absurd (printable _ feed) (by decide)
  · exact absurd (printable _ (List.mem_of_getLast? ends)) (by decide)

/-- The compact text of a value without floats is not blank. -/
theorem blank_text {value : Json} (floatless : value.floatless = true) :
    blank value.text = false := by
  obtain ⟨first, others, written, dark, _⟩ := begins_compact floatless
  rw [blank, text, String.toList_ofList, written, List.all_cons, dark, Bool.false_and]

end Json

/-- A check that finds its type and its documents prints the values that it constructs from them. -/
theorem run_check_output {engine : PatternEngine} {definitions : List String} {name : String}
    {input : InputSettings} {surroundings : Surroundings} {registry : Registry} {type : Descriptor}
    {documents : List Document}
    (loaded : registryOf engine surroundings.files definitions = .ok registry)
    (found : registry.type? name = some type)
    (given : InputGives input surroundings documents) (trace : Bool) :
    (transcriptOf
      (Request.run engine ⟨definitions, .check name input true, trace⟩ surroundings)).output =
      printed ((documents.filterMap type.built?).map Json.text) := by
  have run : Request.run engine ⟨definitions, .check name input true, trace⟩ surroundings =
      reportWith engine (namedType · name) (checkDocument · true trace) definitions input
        surroundings := rfl
  rw [run, reportWith, loaded]
  simp only [namedType_eq_ok_iff.mpr found, loadDocuments_eq_ok_iff.mpr given, bind, Except.bind,
    pure, Except.pure, transcriptOf_checkDocument, if_true]

/-- What a check emits reads back. The text of values without floats, each on a line of its own and
none deeper than a text may be nested, gives under any origin the very same values in their order,
with the members of their objects in order, and numbers them from one. It is the text that a check
prints on demand when these are the values that it constructs. No object of a value holds a name
twice, as no object that is read does. -/
theorem emitted_reads_back (origin : String) (values : List Json)
    (each : ∀ value ∈ values,
      value.Distinct ∧ value.floatless = true ∧ value.depth ≤ 127) :
    documentsOf origin (printed (values.map Json.text)) true =
        .ok (values.mapIdx fun index value =>
          ⟨origin ++ ":" ++ toString (index + 1), value⟩) ∧
      ∀ engine definitions name input trace surroundings registry type documents,
        registryOf engine surroundings.files definitions = .ok registry →
          registry.type? name = some type → InputGives input surroundings documents →
          documents.filterMap type.built? = values →
          (transcriptOf
            (Request.run engine ⟨definitions, .check name input true, trace⟩ surroundings)).output =
            printed (values.map Json.text) := by
  refine ⟨?_, ?_⟩
  · have lines : linesOf (printed (values.map Json.text)) = values.map Json.text :=
      linesOf_printed (List.forall_mem_map.mpr fun value member =>
        Json.text_line (each value member).2.1)
    have read : ∀ value ∈ values, blank value.text = false ∧ Json.read value.text = .ok value :=
      fun value member =>
        have ⟨distinct, floatless, deep⟩ := each value member
        ⟨Json.blank_text floatless, Json.read_text distinct floatless deep⟩
    rw [documentsOf, if_pos rfl, lines, documentsOfLines_texts origin 1 read]
    simp only [Nat.add_comm 1]
  · intro engine definitions name input trace surroundings registry type documents loaded found
      given built
    rw [run_check_output loaded found given trace, built]

/-- Values with everything that a text has to keep: members out of alphabetical order, an empty
name, signs that are escaped and signs that are not, and the least and the greatest integer. -/
def hardValues : List Json :=
  [.object [("z", .array [.null, .array [], .object [("", .bool true)]]),
      ("a\n", .string "\"\\/\x00\x1f\x7f\u2028\r\n😀")],
    .number (.integer ⟨-0x8000000000000000, by decide, by decide⟩),
    .number (.integer ⟨0xffffffffffffffff, by decide, by decide⟩),
    .string ""]

theorem distinct_of_mem_hardValues : ∀ value ∈ hardValues, value.Distinct := by
  unfold hardValues
  simp only [List.forall_mem_cons]
  refine ⟨.object (by decide) ?_, .number _, .number _, .string _, List.forall_mem_nil _⟩
  simp only [List.forall_mem_cons]
  refine ⟨.array ?_, .string _, List.forall_mem_nil _⟩
  simp only [List.forall_mem_cons]
  refine ⟨.null, .array (List.forall_mem_nil _), .object (by decide) ?_, List.forall_mem_nil _⟩
  simp only [List.forall_mem_cons]
  exact ⟨.bool true, List.forall_mem_nil _⟩

/-- The values are written on four lines, and a check that finds this text at its standard input and
accepts every value prints it once more. -/
theorem emitted_reads_back_hardValues :
    let text := printed (hardValues.map Json.text)
    text = "\x7b\"z\":[null,[],\x7b\"\":true\x7d],\"a\\n\":" ++
        "\"\\\"\\\\/\\u0000\\u001f\x7f\u2028\\r\\n😀\"\x7d\n" ++
        "-9223372036854775808\n18446744073709551615\n\"\"\n" ∧
      documentsOf "out" text true =
        .ok (hardValues.mapIdx fun index value => ⟨"out" ++ ":" ++ toString (index + 1), value⟩) ∧
      (transcriptOf (Request.run Pattern.engine ⟨[], .check "Any" ⟨true, none, ["-"]⟩ true, false⟩
        ⟨⟨.directory [], []⟩, text.toUTF8⟩)).output = text := by
  intro text
  have each : ∀ value ∈ hardValues,
      value.Distinct ∧ value.floatless = true ∧ value.depth ≤ 127 := by
    have formed : ∀ value ∈ hardValues, value.floatless = true ∧ value.depth ≤ 127 := by decide
    exact fun value member => ⟨distinct_of_mem_hardValues value member, formed value member⟩
  refine ⟨by decide +kernel, (emitted_reads_back "out" hardValues each).1, ?_⟩
  have decoded : String.fromUTF8? text.toUTF8 = some text := by decide +kernel
  have source : sourceOf ⟨⟨.directory [], []⟩, text.toUTF8⟩ "-" = .ok ("<stdin>", text) := by
    have named : "-" = inputPath := rfl
    rw [sourceOf, if_pos named, inputText, decoded]
    rfl
  obtain ⟨cut, emitted⟩ := emitted_reads_back "<stdin>" hardValues each
  have given : InputGives ⟨true, none, ["-"]⟩ ⟨⟨.directory [], []⟩, text.toUTF8⟩ _ :=
    ⟨[["-"]], [_], .cons rfl .nil,
      .cons ⟨_, text, _, source, cut, List.forall₂_same.mpr fun _ _ => rfl⟩ .nil,
      (List.append_nil _).symm⟩
  exact emitted Pattern.engine [] "Any" _ false _ .standard Standard.any _ rfl rfl given rfl

end JsonShape
