/-
This file says what is read between the items of an array and the members of an object.
Closing signs and colons are steps over one sign behind blanks (`StepsOver`). What stands
in front of an item is a comma, or nothing but blanks at the beginning, and it may stand
in front of every item that begins with the same character (`nextItem?_some`). What
stands in front of the content of a member gives its key and ends with a colon, so
anything may follow (`exists_heads`).
-/

import JsonShape.Definition.Reader
import JsonShape.Proofs.Tokens

namespace JsonShape

/-! ### Closing signs and colons -/

/-- The step skips blanks and goes over the sign that comes next; it fails at any other. -/
def StepsOver (sign : Char) (step : Cursor → Except ReadError Cursor) : Prop :=
  ∀ cursor next, step cursor = .ok next ↔
    ∃ rest after, cursor.skipSpaces = ⟨sign :: rest, after⟩ ∧ next = ⟨rest, after + 1⟩

section StepsOver

variable {sign : Char} {step : Cursor → Except ReadError Cursor}

theorem StepsOver.exists_leads (steps : StepsOver sign step) {text rest : List Char}
    {offset after : Nat} (stepped : step ⟨text, offset⟩ = .ok ⟨rest, after⟩) :
    ∃ blanks, text = blanks ++ sign :: rest ∧ Leads blanks sign := by
  obtain ⟨others, start, skipped, same⟩ := (steps _ _).mp stepped
  obtain ⟨rfl, _⟩ := Cursor.mk.inj same
  exact JsonShape.exists_leads skipped

theorem StepsOver.again (steps : StepsOver sign step) {blanks : List Char}
    (leads : Leads blanks sign) (other : List Char) (offset : Nat) :
    ∃ after, step ⟨blanks ++ sign :: other, offset⟩ = .ok ⟨other, after⟩ := by
  obtain ⟨after, skipped⟩ := leads.skips other offset
  exact ⟨after + 1, (steps _ _).mpr ⟨other, after, skipped, rfl⟩⟩

theorem StepsOver.skipSpaces_eq_ok_iff (steps : StepsOver sign step) {cursor next : Cursor} :
    step cursor.skipSpaces = .ok next ↔ step cursor = .ok next := by
  rw [steps, steps, Cursor.skipSpaces_skipSpaces]

/-- It suffices to look at what is behind the blanks: the step goes over the sign there, and it does
not succeed anywhere else. -/
theorem StepsOver.of_behind
    (here : ∀ cursor rest offset, cursor.skipSpaces = ⟨sign :: rest, offset⟩ →
      step cursor = .ok ⟨rest, offset + 1⟩)
    (only : ∀ cursor next, step cursor = .ok next →
      ∃ rest, cursor.skipSpaces.rest = sign :: rest) : StepsOver sign step := by
  intro cursor next
  constructor
  · intro stepped
    obtain ⟨rest, written⟩ := only cursor next stepped
    have skipped : cursor.skipSpaces = ⟨sign :: rest, cursor.skipSpaces.offset⟩ := written ▸ rfl
    exact ⟨rest, _, skipped, Except.ok.inj (stepped.symm.trans (here cursor rest _ skipped))⟩
  · rintro ⟨rest, after, skipped, rfl⟩
    exact here cursor rest after skipped

theorem closeArray_stepsOver : StepsOver ']' closeArray :=
  .of_behind (fun _ _ _ skipped => by simp [closeArray, skipped, Cursor.skip])
    fun _ _ _ => by grind [closeArray]

theorem closeObject_stepsOver : StepsOver '\x7d' closeObject :=
  .of_behind (fun _ _ _ skipped => by simp [closeObject, skipped, Cursor.skip])
    fun _ _ _ => by grind [closeObject]

theorem closeDeclaration_stepsOver : StepsOver '\x7d' closeDeclaration :=
  .of_behind (fun _ _ _ skipped => by simp [closeDeclaration, skipped, Cursor.skip])
    fun _ _ _ => by grind [closeDeclaration]

theorem readColon_stepsOver : StepsOver ':' Cursor.readColon :=
  .of_behind (fun _ _ _ skipped => by simp [Cursor.readColon, skipped, Cursor.skip])
    fun _ _ _ => by grind [Cursor.readColon]

end StepsOver

/-! ### The next item and the next key -/

theorem Leads.nextItem?_none {blanks : List Char} (leads : Leads blanks ']') (first : Bool)
    (other : List Char) (offset : Nat) :
    nextItem? first ⟨blanks ++ ']' :: other, offset⟩ = .ok none := by
  obtain ⟨after, skipped⟩ := leads.skips other offset
  rw [nextItem?, skipped]
  rfl

theorem Leads.nextKey?_none {blanks : List Char} (leads : Leads blanks '\x7d') (first : Bool)
    (other : List Char) (offset : Nat) :
    nextKey? first ⟨blanks ++ '\x7d' :: other, offset⟩ = .ok none := by
  obtain ⟨after, skipped⟩ := leads.skips other offset
  rw [nextKey?, skipped]
  rfl

/-- Behind blanks an item comes next, or at least something that does not end the array. -/
def ItemAt (cursor next : Cursor) : Prop :=
  cursor.skipSpaces = next ∧ ∃ character others, next.rest = character :: others ∧ character ≠ ']'

theorem nextItem?_true_eq_some_iff {cursor next : Cursor} :
    nextItem? true cursor = .ok (some next) ↔ ItemAt cursor next := by
  rw [nextItem?, ItemAt]
  generalize cursor.skipSpaces = start
  obtain ⟨rest, offset⟩ := start
  constructor
  · intro found
    dsimp only at found
    split at found
    · cases found
    · cases found
    · rename_i character others noEnd
      obtain rfl := Option.some.inj (Except.ok.inj found)
      exact ⟨rfl, character, others, rfl, noEnd⟩
  · rintro ⟨rfl, character, others, written, noEnd⟩
    dsimp only at written
    subst written
    simp

theorem nextItem?_false_eq_some_iff {cursor next : Cursor} :
    nextItem? false cursor = .ok (some next) ↔
      ∃ rest offset, cursor.skipSpaces = ⟨',' :: rest, offset⟩ ∧
        ItemAt ⟨rest, offset + 1⟩ next := by
  rw [nextItem?]
  generalize cursor.skipSpaces = start
  obtain ⟨rest, offset⟩ := start
  constructor
  · intro found
    dsimp only at found
    split at found
    · cases found
    · cases found
    · rename_i character others noEnd
      by_cases comma : character = ','
      · subst comma
        refine ⟨others, offset, rfl, ?_⟩
        unfold ItemAt
        simp only [Bool.false_eq_true, if_false, if_true, Cursor.skip, List.drop_succ_cons,
          List.drop_zero] at found
        generalize Cursor.skipSpaces ⟨others, offset + 1⟩ = behind at *
        split at found
        · cases found
        · cases found
        · rename_i noEmpty noClose
          obtain rfl := Option.some.inj (Except.ok.inj found)
          obtain ⟨item, tail, written⟩ := List.exists_cons_of_ne_nil noEmpty
          exact ⟨rfl, item, tail, written, fun ended => noClose tail (ended ▸ written)⟩
      · simp [comma] at found
  · rintro ⟨others, start, same, rfl, character, rest, written, noEnd⟩
    obtain ⟨rfl, rfl⟩ := Cursor.mk.inj same
    simp only [Char.reduceEq, imp_self, Bool.false_eq_true, if_false, if_true, Cursor.skip,
      List.drop_succ_cons, List.drop_zero, written]
    split
    case h_1 empty => cases empty
    case h_2 ended => exact absurd (List.cons.inj ended).1 noEnd
    case h_3 => rfl

/-- The same blanks lead to every item that begins with the same character. -/
theorem ItemAt.front {text rest : List Char} {offset after : Nat}
    (item : ItemAt ⟨text, offset⟩ ⟨rest, after⟩) :
    ∃ blanks, text = blanks ++ rest ∧ ∀ other, other.head? = rest.head? → ∀ offset,
      ∃ after, ItemAt ⟨blanks ++ other, offset⟩ ⟨other, after⟩ := by
  obtain ⟨skipped, character, others, rfl, noEnd⟩ := item
  obtain ⟨blanks, rfl, leads⟩ := exists_leads skipped
  refine ⟨blanks, rfl, fun other same offset => ?_⟩
  obtain ⟨others, rfl⟩ := List.head?_eq_some_iff.mp same
  obtain ⟨after, skipped⟩ := leads.skips others offset
  exact ⟨after, skipped, character, others, rfl, noEnd⟩

/-- What stands in front of an item, a comma or nothing but blanks, stands in front of every item
that begins with the same character. -/
theorem nextItem?_some {first : Bool} {text rest : List Char} {offset after : Nat}
    (found : nextItem? first ⟨text, offset⟩ = .ok (some ⟨rest, after⟩)) :
    ∃ front, text = front ++ rest ∧
      ∀ other, other.head? = rest.head? → ∀ offset, ∃ after,
        nextItem? first ⟨front ++ other, offset⟩ = .ok (some ⟨other, after⟩) := by
  cases first with
  | true =>
    obtain ⟨blanks, rfl, again⟩ := (nextItem?_true_eq_some_iff.mp found).front
    refine ⟨blanks, rfl, fun other same offset => ?_⟩
    obtain ⟨after, item⟩ := again other same offset
    exact ⟨after, nextItem?_true_eq_some_iff.mpr item⟩
  | false =>
    obtain ⟨behind, start, skipped, item⟩ := nextItem?_false_eq_some_iff.mp found
    obtain ⟨blanks, rfl, comma⟩ := exists_leads skipped
    obtain ⟨between, rfl, again⟩ := item.front
    refine ⟨blanks ++ ',' :: between, by simp, fun other same offset => ?_⟩
    obtain ⟨start, skipped⟩ := comma.skips (between ++ other) offset
    obtain ⟨after, item⟩ := again other same (start + 1)
    rw [List.append_assoc]
    exact ⟨after, nextItem?_false_eq_some_iff.mpr ⟨_, start, skipped, item⟩⟩

/-- Behind blanks a key comes next. -/
def KeyAt (cursor : Cursor) (key : String × Cursor) : Prop :=
  ∃ text offset, cursor.skipSpaces = ⟨'"' :: text, offset⟩ ∧
    readString ⟨text, offset + 1⟩ = .ok key

/-- What looks for a key where one must come. -/
def keyFrom (cursor : Cursor) : Except ReadError (Option (String × Cursor)) :=
  match cursor.rest with
  | [] => .error (cursor.errorHere .endInValue)
  | '"' :: _ =>
      match readString (cursor.skip 1) with
      | .ok key => .ok (some key)
      | .error error => .error error
  | '\x7d' :: _ => .error (cursor.errorAtNext .trailingComma)
  | _ => .error (cursor.errorAtNext .keyNotString)

theorem keyFrom_eq_some_iff {cursor : Cursor} {key : String × Cursor} :
    keyFrom cursor.skipSpaces = .ok (some key) ↔ KeyAt cursor key := by
  unfold keyFrom KeyAt
  generalize cursor.skipSpaces = start
  obtain ⟨rest, offset⟩ := start
  constructor
  · intro found
    dsimp only at found
    split at found
    · cases found
    · split at found
      · rename_i read
        rw [Option.some.inj (Except.ok.inj found)] at read
        exact ⟨_, offset, rfl, read⟩
      · cases found
    · cases found
    · cases found
  · rintro ⟨text, start, same, read⟩
    obtain ⟨rfl, rfl⟩ := Cursor.mk.inj same
    simp [Cursor.skip, read]

theorem nextKey?_true_eq_some_iff {cursor : Cursor} {key : String × Cursor} :
    nextKey? true cursor = .ok (some key) ↔ KeyAt cursor key := by
  rw [← keyFrom_eq_some_iff, nextKey?]
  generalize cursor.skipSpaces = start
  obtain ⟨rest, offset⟩ := start
  dsimp only
  split
  · simp [keyFrom]
  · simp [keyFrom]
  · exact Iff.rfl

theorem nextKey?_false_eq_some_iff {cursor : Cursor} {key : String × Cursor} :
    nextKey? false cursor = .ok (some key) ↔
      ∃ rest offset, cursor.skipSpaces = ⟨',' :: rest, offset⟩ ∧
        KeyAt ⟨rest, offset + 1⟩ key := by
  simp only [← keyFrom_eq_some_iff]
  rw [nextKey?]
  generalize cursor.skipSpaces = start
  obtain ⟨rest, offset⟩ := start
  constructor
  · intro found
    dsimp only at found
    split at found
    · cases found
    · cases found
    · rename_i character others _
      by_cases comma : character = ','
      · subst comma
        exact ⟨others, offset, rfl, found⟩
      · simp [comma] at found
  · rintro ⟨others, start, same, read⟩
    obtain ⟨rfl, rfl⟩ := Cursor.mk.inj same
    exact read

/-- The same blanks and the same key may stand in front of anything. -/
theorem KeyAt.front {text rest : List Char} {offset after : Nat} {name : String}
    (key : KeyAt ⟨text, offset⟩ (name, ⟨rest, after⟩)) :
    ∃ front, text = front ++ rest ∧ ∀ other offset,
      ∃ after, KeyAt ⟨front ++ other, offset⟩ (name, ⟨other, after⟩) := by
  obtain ⟨others, start, skipped, read⟩ := key
  obtain ⟨blanks, rfl, leads⟩ := exists_leads skipped
  obtain ⟨consumed, rfl, again⟩ := readString_consumes read
  refine ⟨blanks ++ '"' :: consumed, by simp, fun other offset => ?_⟩
  obtain ⟨start, skipped⟩ := leads.skips (consumed ++ other) offset
  obtain ⟨after, read⟩ := again other (start + 1)
  rw [List.append_assoc]
  exact ⟨after, _, start, skipped, read⟩

/-- What stands in front of the content of a member, up to its key, may stand in front of
anything. -/
theorem nextKey?_some {first : Bool} {text rest : List Char} {offset after : Nat} {key : String}
    (found : nextKey? first ⟨text, offset⟩ = .ok (some (key, ⟨rest, after⟩))) :
    ∃ front, text = front ++ rest ∧ ∀ other offset, ∃ after,
        nextKey? first ⟨front ++ other, offset⟩ = .ok (some (key, ⟨other, after⟩)) := by
  cases first with
  | true =>
    obtain ⟨front, rfl, again⟩ := (nextKey?_true_eq_some_iff.mp found).front
    refine ⟨front, rfl, fun other offset => ?_⟩
    obtain ⟨after, key⟩ := again other offset
    exact ⟨after, nextKey?_true_eq_some_iff.mpr key⟩
  | false =>
    obtain ⟨behind, start, skipped, key⟩ := nextKey?_false_eq_some_iff.mp found
    obtain ⟨blanks, rfl, comma⟩ := exists_leads skipped
    obtain ⟨between, rfl, again⟩ := key.front
    refine ⟨blanks ++ ',' :: between, by simp, fun other offset => ?_⟩
    obtain ⟨start, skipped⟩ := comma.skips (between ++ other) offset
    obtain ⟨after, key⟩ := again other (start + 1)
    rw [List.append_assoc]
    exact ⟨after, nextKey?_false_eq_some_iff.mpr ⟨_, start, skipped, key⟩⟩

/-- What stands in front of the content of a member, up to its colon: it gives the key, and anything
may follow. -/
def Heads (first : Bool) (front : List Char) (key : String) : Prop :=
  ∀ other offset, ∃ middle after,
    nextKey? first ⟨front ++ other, offset⟩ = .ok (some (key, middle)) ∧
      middle.readColon = .ok ⟨other, after⟩

theorem exists_heads {first : Bool} {text rest : List Char} {offset after : Nat} {key : String}
    {middle : Cursor} (found : nextKey? first ⟨text, offset⟩ = .ok (some (key, middle)))
    (colon : middle.readColon = .ok ⟨rest, after⟩) :
    ∃ front, text = front ++ rest ∧ Heads first front key := by
  obtain ⟨middle, start⟩ := middle
  obtain ⟨blanks, rfl, leads⟩ := readColon_stepsOver.exists_leads colon
  obtain ⟨front, rfl, again⟩ := nextKey?_some found
  refine ⟨front ++ (blanks ++ [':']), by simp, fun other offset => ?_⟩
  obtain ⟨start, found⟩ := again (blanks ++ ':' :: other) offset
  obtain ⟨after, colon⟩ := readColon_stepsOver.again leads other start
  exact ⟨_, after, by simpa using found, colon⟩

theorem Heads.length_pos {first : Bool} {front : List Char} {key : String}
    (heads : Heads first front key) : 0 < front.length := by
  cases front with
  | cons character front => exact Nat.succ_pos _
  | nil =>
    obtain ⟨_, _, found, _⟩ := heads [] 0
    cases found

end JsonShape
