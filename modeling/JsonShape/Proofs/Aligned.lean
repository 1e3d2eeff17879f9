/-
This file relates two tables that hold the same names in the same order. Most of
what happens to a table here is of this kind: the fields of a record and the object
rebuilt from them, the members of a mapping and the fields declared by them, the
payloads of a union and its variants.
-/

import JsonShape.Table

namespace JsonShape

namespace Table

/-- Two tables with the same names in the same order, whose contents are related name by name. -/
inductive Aligned {First Second : Type} (Related : String → First → Second → Prop) :
    Table First → Table Second → Prop
  | nil : Aligned Related [] []
  | cons {name : String} {first : First} {second : Second} {firsts : Table First}
      {seconds : Table Second} (head : Related name first second)
      (tail : Aligned Related firsts seconds) :
      Aligned Related ((name, first) :: firsts) ((name, second) :: seconds)

namespace Aligned

variable {First Second : Type} {Related : String → First → Second → Prop}
  {firsts : Table First} {seconds : Table Second}

theorem keys (aligned : Aligned Related firsts seconds) :
    Table.keys seconds = Table.keys firsts := by
  induction aligned with
  | nil => rfl
  | cons _ _ inductionHypothesis => exact congrArg (List.cons _) inductionHypothesis

/-- Every entry of the first table has a partner in the second one. -/
theorem exists_second (aligned : Aligned Related firsts seconds) {entry : String × First}
    (member : entry ∈ firsts) :
    ∃ second, (entry.1, second) ∈ seconds ∧ Related entry.1 entry.2 second := by
  induction aligned with
  | nil => cases member
  | @cons name first second _ _ head _ inductionHypothesis =>
    rcases List.mem_cons.mp member with rfl | inRest
    · exact ⟨second, List.mem_cons_self, head⟩
    · obtain ⟨partner, partnerMember, related⟩ := inductionHypothesis inRest
      exact ⟨partner, List.mem_cons_of_mem _ partnerMember, related⟩

/-- Every entry of the second table has a partner in the first one. -/
theorem exists_first (aligned : Aligned Related firsts seconds) {entry : String × Second}
    (member : entry ∈ seconds) :
    ∃ first, (entry.1, first) ∈ firsts ∧ Related entry.1 first entry.2 := by
  induction aligned with
  | nil => cases member
  | @cons name first second _ _ head _ inductionHypothesis =>
    rcases List.mem_cons.mp member with rfl | inRest
    · exact ⟨first, List.mem_cons_self, head⟩
    · obtain ⟨partner, partnerMember, related⟩ := inductionHypothesis inRest
      exact ⟨partner, List.mem_cons_of_mem _ partnerMember, related⟩

/-- If no name occurs twice, the partner of an entry is found under its name. -/
theorem find? (aligned : Aligned Related firsts seconds) (distinct : (Table.keys firsts).Nodup)
    {entry : String × First} (member : entry ∈ firsts) :
    ∃ second, Table.find? seconds entry.1 = some second ∧ Related entry.1 entry.2 second := by
  obtain ⟨second, partner, related⟩ := aligned.exists_second member
  have names : (Table.keys seconds).Nodup := aligned.keys ▸ distinct
  exact ⟨second, find?_of_mem names partner, related⟩

/-- What stands first under a name in both tables is related, and no name stands in one table
only. -/
theorem rel_find? (aligned : Aligned Related firsts seconds) (name : String) :
    Option.Rel (Related name) (Table.find? firsts name) (Table.find? seconds name) := by
  induction aligned with
  | nil => exact .none
  | @cons key first second _ _ head _ inductionHypothesis =>
    by_cases same : key = name
    · simp only [Table.find?, same, if_true]
      exact .some (same ▸ head)
    · simp only [Table.find?, same, if_false]
      exact inductionHypothesis

theorem append (aligned : Aligned Related firsts seconds) {others : Table First}
    {partners : Table Second} (further : Aligned Related others partners) :
    Aligned Related (firsts ++ others) (seconds ++ partners) := by
  induction aligned with
  | nil => exact further
  | cons head _ inductionHypothesis => exact .cons head inductionHypothesis

theorem refl {Related : First → First → Prop} (each : ∀ content, Related content content)
    (table : Table First) : Aligned (fun _ => Related) table table := by
  induction table with
  | nil => exact .nil
  | cons entry rest inductionHypothesis => exact .cons (each entry.2) inductionHypothesis

/-- A table can be completed entry by entry. -/
theorem exists_of_forall
    (each : ∀ entry ∈ firsts, ∃ second, Related entry.1 entry.2 second) :
    ∃ seconds, Aligned Related firsts seconds := by
  induction firsts with
  | nil => exact ⟨[], .nil⟩
  | cons entry rest inductionHypothesis =>
    obtain ⟨⟨second, related⟩, others⟩ := List.forall_mem_cons.mp each
    obtain ⟨seconds, aligned⟩ := inductionHypothesis others
    exact ⟨(entry.1, second) :: seconds, .cons related aligned⟩

/-- A relation that follows for each entry of the first table holds all along the tables. -/
theorem imp {Other : String → First → Second → Prop} (aligned : Aligned Related firsts seconds)
    (each : ∀ entry ∈ firsts, ∀ second, Related entry.1 entry.2 second →
      Other entry.1 entry.2 second) : Aligned Other firsts seconds := by
  induction aligned with
  | nil => exact .nil
  | @cons name first second _ _ head _ inductionHypothesis =>
    obtain ⟨here, others⟩ := List.forall_mem_cons.mp each
    exact .cons (here second head) (inductionHypothesis others)

theorem nil_iff : Aligned Related [] seconds ↔ seconds = [] := by
  constructor
  · rintro ⟨⟩
    rfl
  · rintro rfl
    exact .nil

/-- The first entries are related, and the remaining ones are aligned. -/
theorem cons_iff {entry : String × First} :
    Aligned Related (entry :: firsts) seconds ↔
      ∃ second others, Related entry.1 entry.2 second ∧ Aligned Related firsts others ∧
        seconds = (entry.1, second) :: others := by
  constructor
  · rintro (_ | ⟨head, tail⟩)
    exact ⟨_, _, head, tail, rfl⟩
  · rintro ⟨second, others, head, tail, rfl⟩
    exact .cons head tail

end Aligned

end Table

end JsonShape
