/-
This file says which documents a text gives line by line. Its lines may end in a line
feed with or without a carriage return before it, each in its own way, and the last one
may end with the text (`EndedLines`). Cutting finds these lines again
(`EndedLines.linesOf`), up to an empty one that the text ends with, and that one is blank
like others that are passed over.

Lines are numbered before the blank ones are left out, and the first line that is
neither blank nor the text of a value decides what is reported (`documentsOf_lines`).
-/

import JsonShape.Proofs.Lines

namespace JsonShape

/-! ### Lines and their ends -/

/-- The ways in which a line ends. -/
inductive LineEnd where
  | feed
  | returnFeed

/-- The characters at the end of a line. -/
def LineEnd.text : LineEnd → List Char
  | feed => ['\n']
  | returnFeed => ['\r', '\n']

/-- The text consists of these lines, each with its end; the last one may lack it. -/
inductive EndedLines : List String → List Char → Prop
  | nil : EndedLines [] []
  | last (line : String) : EndedLines [line] line.toList
  | cons (line : String) (ending : LineEnd) {lines : List String} {rest : List Char}
      (others : EndedLines lines rest) :
      EndedLines (line :: lines) (line.toList ++ (ending.text ++ rest))

/-- No line feed is in the line, and it does not end in a carriage return. -/
def ClearLine (line : String) : Prop :=
  '\n' ∉ line.toList ∧ line.toList.getLast? ≠ some '\r'

/-- Without a separator there is one piece. -/
theorem pieces_clear {separator : Char} {text : List Char} (clear : separator ∉ text) :
    pieces separator text = [text] := by
  induction text with
  | nil => rfl
  | cons character text inductionHypothesis =>
    have different : ¬character = separator := fun same => clear (same ▸ List.mem_cons_self)
    have others : separator ∉ text := fun member => clear (List.mem_cons_of_mem _ member)
    rw [pieces, if_neg different, inductionHypothesis others, extendFirst]

/-- A line is cut off the text together with its end. -/
theorem linesOfPieces_ended {line : String} (clear : ClearLine line) (ending : LineEnd)
    (rest : List Char) :
    linesOfPieces (pieces '\n' (line.toList ++ (ending.text ++ rest))) =
      line.toList :: linesOfPieces (pieces '\n' rest) := by
  obtain ⟨clear, kept⟩ := clear
  cases ending with
  | feed =>
    have cut : pieces '\n' (line.toList ++ (LineEnd.feed.text ++ rest)) =
        line.toList :: pieces '\n' rest := pieces_append clear rest
    rw [cut, linesOfPieces_cons _ (pieces_ne_nil _ _), withoutReturn, if_neg kept]
  | returnFeed =>
    have clearToo : '\n' ∉ line.toList ++ ['\r'] := by
      simpa only [List.mem_append, List.mem_singleton, not_or] using ⟨clear, by decide⟩
    have cut : pieces '\n' (line.toList ++ (LineEnd.returnFeed.text ++ rest)) =
        (line.toList ++ ['\r']) :: pieces '\n' rest := by
      rw [← pieces_append clearToo, List.append_assoc]
      rfl
    rw [cut, linesOfPieces_cons _ (pieces_ne_nil _ _), withoutReturn,
      if_pos (List.getLast?_concat ..), List.dropLast_concat]

/-- The lines that a text consists of are found again; only an empty one without an end at the end
of the text is none of its lines. -/
theorem EndedLines.linesOf {lines : List String} {text : String}
    (ended : EndedLines lines text.toList) (clear : ∀ line ∈ lines, ClearLine line) :
    JsonShape.linesOf text = lines ∨ lines = JsonShape.linesOf text ++ [""] := by
  unfold JsonShape.linesOf
  generalize text.toList = characters at ended ⊢
  induction ended with
  | nil => exact Or.inl rfl
  | last line =>
    rw [pieces_clear (clear line List.mem_cons_self).1]
    by_cases empty : line.toList = []
    · refine Or.inr ?_
      rw [String.toList_eq_nil_iff] at empty
      rw [empty]
      rfl
    · refine Or.inl ?_
      rw [linesOfPieces, if_neg (by simpa using empty), List.map_singleton, String.ofList_toList]
  | cons line ending others inductionHypothesis =>
    obtain ⟨clearFirst, clearOthers⟩ := List.forall_mem_cons.mp clear
    rw [linesOfPieces_ended clearFirst, List.map_cons, String.ofList_toList, List.cons_append,
      List.cons.injEq, List.cons.injEq]
    simpa only [true_and] using inductionHypothesis clearOthers

/-! ### Numbered lines -/

/-- The documents are those of the lines that are not blank, under their numbers among all lines. -/
theorem documentsOfLines_eq_mapM (origin : String) (number : Nat) (lines : List String) :
    documentsOfLines origin number lines =
      ((lines.zipIdx number).filter fun place => !blank place.1).mapM fun place =>
        Document.ofLine origin place.2 place.1 := by
  induction lines generalizing number with
  | nil => rfl
  | cons line lines inductionHypothesis =>
    rw [documentsOfLines, List.zipIdx_cons, List.filter_cons, inductionHypothesis]
    cases blank line with
    | true => rfl
    | false => rw [if_neg Bool.false_ne_true, Bool.not_false, if_pos rfl, List.mapM_cons]

/-- A blank line at the end adds nothing. -/
theorem documentsOfLines_append_blank (origin : String) (number : Nat) (lines : List String)
    {line : String} (unwritten : blank line = true) :
    documentsOfLines origin number (lines ++ [line]) = documentsOfLines origin number lines := by
  simp only [documentsOfLines_eq_mapM, List.zipIdx_append, List.filter_append,
    List.zipIdx_singleton, List.filter_singleton, unwritten, Bool.not_true, cond_false,
    List.append_nil]

theorem EndedLines.documentsOf {lines : List String} {text : String}
    (ended : EndedLines lines text.toList) (clear : ∀ line ∈ lines, ClearLine line)
    (origin : String) :
    JsonShape.documentsOf origin text true = documentsOfLines origin 1 lines := by
  rw [JsonShape.documentsOf, if_pos rfl]
  rcases ended.linesOf clear with same | shorter
  · rw [same]
  · rw [shorter, documentsOfLines_append_blank origin 1 _ (by decide)]

theorem Document.ofLine_eq_ok_iff {origin line : String} {number : Nat} {document : Document} :
    Document.ofLine origin number line = .ok document ↔
      Json.read line = .ok document.value ∧ document.origin = origin ++ ":" ++ toString number := by
  rw [Document.ofLine]
  cases Json.read line with
  | error fault => simp
  | ok value =>
    cases document with
    | mk place content => simp [and_comm, eq_comm]

theorem Document.ofLine_eq_error_iff {origin line : String} {number : Nat}
    {error : DocumentError} :
    Document.ofLine origin number line = .error error ↔
      ∃ fault, Json.read line = .error fault ∧
        error = .unreadableLine (origin ++ ":" ++ toString number) fault line := by
  rw [Document.ofLine]
  cases Json.read line with
  | error fault => simp [eq_comm]
  | ok value => simp

theorem Document.exists_ofLine_iff {origin line : String} {number : Nat} :
    (∃ document, Document.ofLine origin number line = .ok document) ↔
      ∃ value, Json.read line = .ok value := by
  simp only [Document.ofLine_eq_ok_iff]
  constructor
  · rintro ⟨document, read, _⟩
    exact ⟨_, read⟩
  · rintro ⟨value, read⟩
    exact ⟨⟨_, value⟩, read, rfl⟩

/-! ### What is reported -/

theorem blank_eq_true_iff {line : String} : blank line = true ↔ trim line.toList = [] :=
  all_isBlank_iff line.toList

/-- The line is passed over, or it is the text of a value. -/
def PassableLine (line : String) : Prop :=
  trim line.toList = [] ∨ ∃ value, Json.read line = .ok value

theorem documentsOfLines_cons_eq_error_iff {origin line : String} {number : Nat}
    {lines : List String} {error : DocumentError} :
    documentsOfLines origin number (line :: lines) = .error error ↔
      (trim line.toList ≠ [] ∧ Document.ofLine origin number line = .error error) ∨
        (PassableLine line ∧ documentsOfLines origin (number + 1) lines = .error error) := by
  rw [documentsOfLines]
  by_cases unwritten : blank line = true
  · have trimmed := blank_eq_true_iff.mp unwritten
    simp only [if_pos unwritten, PassableLine, trimmed, ne_eq, not_true, false_and, false_or,
      true_or, true_and]
  · have trimmed := blank_eq_true_iff.not.mp unwritten
    simp only [if_neg unwritten, PassableLine, trimmed, ne_eq, not_false_eq_true, true_and,
      false_or, bind_eq_error_iff, pure_eq_error_iff, and_false, exists_false, or_false,
      exists_and_right, Document.exists_ofLine_iff]

/-- Lines give documents if each of them can be passed. -/
theorem exists_documentsOfLines_iff {origin : String} {number : Nat} {lines : List String} :
    (∃ documents, documentsOfLines origin number lines = .ok documents) ↔
      ∀ line ∈ lines, PassableLine line := by
  rw [documentsOfLines_eq_mapM, exists_mapM_iff]
  simp only [Document.exists_ofLine_iff, List.mem_filter, Bool.not_eq_true', and_imp]
  constructor
  · intro readable line member
    obtain ⟨place, placed, rfl⟩ := List.mem_map.mp (List.zipIdx_map_fst number lines ▸ member)
    cases unwritten : blank place.1 with
    | true => exact Or.inl (blank_eq_true_iff.mp unwritten)
    | false => exact Or.inr (readable place placed unwritten)
  · intro passable place placed written
    refine (passable place.1 ?_).resolve_left fun trimmed => ?_
    · exact List.zipIdx_map_fst number lines ▸ List.mem_map_of_mem placed
    · rw [blank_eq_true_iff.mpr trimmed] at written
      cases written

/-- The first line that cannot be passed decides, and it is reported with its number. -/
theorem documentsOfLines_eq_error_iff {origin : String} {number : Nat} {lines : List String}
    {error : DocumentError} :
    documentsOfLines origin number lines = .error error ↔
      ∃ before line after fault, lines = before ++ line :: after ∧
        (∀ earlier ∈ before, PassableLine earlier) ∧ trim line.toList ≠ [] ∧
        Json.read line = .error fault ∧
        error =
          .unreadableLine (origin ++ ":" ++ toString (number + before.length)) fault line := by
  induction lines generalizing number with
  | nil => simp [documentsOfLines]
  | cons first lines inductionHypothesis =>
    have shift (before : List String) :
        number + 1 + before.length = number + (first :: before).length := by
      rw [List.length_cons]
      omega
    rw [documentsOfLines_cons_eq_error_iff, inductionHypothesis, Document.ofLine_eq_error_iff]
    constructor
    · rintro (⟨written, fault, failed, rfl⟩ |
        ⟨passable, before, line, after, fault, rfl, earlier, written, failed, rfl⟩)
      · exact ⟨[], first, lines, fault, rfl, List.forall_mem_nil _, written, failed, rfl⟩
      · exact ⟨first :: before, line, after, fault, rfl,
          List.forall_mem_cons.mpr ⟨passable, earlier⟩, written, failed, by rw [shift]⟩
    · rintro ⟨before, line, after, fault, split, earlier, written, failed, rfl⟩
      cases before with
      | nil =>
        obtain ⟨rfl, rfl⟩ := List.cons.inj split
        exact Or.inl ⟨written, fault, failed, rfl⟩
      | cons head before =>
        obtain ⟨rfl, rfl⟩ := List.cons.inj split
        obtain ⟨passable, earlier⟩ := List.forall_mem_cons.mp earlier
        exact Or.inr ⟨passable, before, line, after, fault, rfl, earlier, written, failed,
          by rw [shift]⟩

/-- Lines give documents if each of those that are not blank is the text of one. -/
theorem documentsOfLines_eq_ok_iff {origin : String} {number : Nat} {lines : List String}
    {documents : List Document} :
    documentsOfLines origin number lines = .ok documents ↔
      List.Forall₂ (fun place document => Json.read place.1 = .ok document.value ∧
          document.origin = origin ++ ":" ++ toString place.2)
        ((lines.zipIdx number).filter fun place => trim place.1.toList ≠ []) documents := by
  have written : (fun place : String × Nat => !blank place.1) =
      fun place => decide (trim place.1.toList ≠ []) := by
    funext place
    rw [Bool.eq_iff_iff, Bool.not_eq_true', ← Bool.not_eq_true, blank_eq_true_iff,
      decide_eq_true_eq]
  simp only [documentsOfLines_eq_mapM, written, mapM_eq_ok_iff, Document.ofLine_eq_ok_iff]

/-- A text is cut into its lines, whichever way each of them ends. It gives no documents exactly if
some line that trimming does not empty is not the text of a value, and then the first such line is
reported with the origin and its number among all lines, blank ones counted. Otherwise it gives one
document for each line that trimming does not empty, in their order: the value of the line, under
the origin and the number of the line among all lines. -/
theorem documentsOf_lines {lines : List String} {text : String}
    (ended : EndedLines lines text.toList) (clear : ∀ line ∈ lines, ClearLine line)
    (origin : String) :
    ((∃ error, documentsOf origin text true = .error error) ↔
        ∃ line ∈ lines, trim line.toList ≠ [] ∧ ∀ value, Json.read line ≠ .ok value) ∧
      (∀ error, documentsOf origin text true = .error error ↔
        ∃ before line after fault, lines = before ++ line :: after ∧
          (∀ earlier ∈ before,
            trim earlier.toList = [] ∨ ∃ value, Json.read earlier = .ok value) ∧
          trim line.toList ≠ [] ∧ Json.read line = .error fault ∧
          error = .unreadableLine (origin ++ ":" ++ toString (before.length + 1)) fault line) ∧
      ∀ documents, documentsOf origin text true = .ok documents ↔
        List.Forall₂ (fun place document => Json.read place.1 = .ok document.value ∧
            document.origin = origin ++ ":" ++ toString place.2)
          ((lines.zipIdx 1).filter fun place => trim place.1.toList ≠ []) documents := by
  rw [ended.documentsOf clear]
  refine ⟨?_, fun error => ?_, fun documents => documentsOfLines_eq_ok_iff⟩
  · have fails : (∃ error, documentsOfLines origin 1 lines = .error error) ↔
        ¬∃ documents, documentsOfLines origin 1 lines = .ok documents := by
      cases documentsOfLines origin 1 lines <;> simp
    rw [fails, exists_documentsOfLines_iff]
    simp only [PassableLine, not_forall, not_or, not_exists, exists_prop, ne_eq]
  · rw [documentsOfLines_eq_error_iff]
    simp only [Nat.add_comm 1, PassableLine]

/-- Lines of which two are blank, one of them without being empty. -/
def mixedLines : List String := ["[true]", "\u00a0\u2003", "", "\"b\""]

/-- Lines of which the third one holds two values and the last one none. -/
def brokenLines : List String := ["\u3000", " null", "true true", "?"]

/-- The numbers of the documents are those of their lines, and of two broken lines the first one is
reported. -/
theorem documentsOf_lines_mixed :
    documentsOf "in" "[true]\r\n\u00a0\u2003\n\r\n\"b\"" true =
        .ok [⟨"in:1", .array [.bool true]⟩, ⟨"in:4", .string "b"⟩] ∧
      documentsOf "in" "\u3000\n null\r\ntrue true\n?\r\n" true =
        .error (.unreadableLine "in:3" ⟨.trailingText, 6, []⟩ "true true") := by
  have clear : ∀ line ∈ mixedLines ++ brokenLines, ClearLine line := by
    unfold ClearLine
    decide
  have items : Json.read "[true]" = .ok (.array [.bool true]) := by rfl
  have word : Json.read "\"b\"" = .ok (.string "b") := by rfl
  have nothing : Json.read " null" = .ok .null := by rfl
  have twice : Json.read "true true" = .error ⟨.trailingText, 6, []⟩ := by rfl
  constructor
  · have ended : EndedLines mixedLines "[true]\r\n\u00a0\u2003\n\r\n\"b\"".toList :=
      .cons "[true]" .returnFeed (.cons "\u00a0\u2003" .feed (.cons "" .returnFeed (.last "\"b\"")))
    have numbered : ((mixedLines.zipIdx 1).filter fun place => trim place.1.toList ≠ []) =
        [("[true]", 1), ("\"b\"", 4)] := by decide
    refine ((documentsOf_lines ended ?_ "in").2.2 _).mpr ?_
    · exact fun line member => clear line (List.mem_append_left _ member)
    · rw [numbered]
      exact .cons ⟨items, by decide⟩ (.cons ⟨word, by decide⟩ .nil)
  · have ended : EndedLines brokenLines "\u3000\n null\r\ntrue true\n?\r\n".toList :=
      .cons "\u3000" .feed (.cons " null" .returnFeed (.cons "true true" .feed
        (.cons "?" .returnFeed .nil)))
    refine ((documentsOf_lines ended ?_ "in").2.1 _).mpr
      ⟨["\u3000", " null"], "true true", ["?"], _, rfl, ?_, by decide, twice, rfl⟩
    · exact fun line member => clear line (List.mem_append_right _ member)
    · simp only [List.forall_mem_cons]
      exact ⟨Or.inl (by decide), Or.inr ⟨_, nothing⟩, List.forall_mem_nil _⟩

end JsonShape
