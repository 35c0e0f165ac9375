import SchemaLint.Proofs.Lint.Phrases
import SchemaLint.Proofs.Rule.Nearest

/-! The findings of the rule that reaches across statements: an altered table is reported when a column
is dropped anywhere behind it, unless the table altered before it still waits for its dropped column.
-/
namespace SchemaLint
open Text Pattern

def AltersTableAt (text : Text) (offset : Nat) : Prop :=
  Phrase.StandsAt (Comment.neutralize text) (.ofStrings ["ALTER","TABLE"]) offset

def DropsColumnAt (text : Text) (offset : Nat) : Prop :=
  Phrase.StandsAt (Comment.neutralize text) (.ofStrings ["DROP","COLUMN"]) offset

theorem filter_code_eq {rule : Rule} (member : rule ∈ Rule.all) (text : Text) :
    (lint text).filter (fun diagnostic => diagnostic.code = rule.code) =
      (rule.offsets (Comment.neutralize text)).map (rule.finding text) := by
  obtain ⟨-,ordered,findings⟩ := lint_spec text
  refine (ordered.filter _).eq_of_mem_iff ?_ ?_
  · rw [List.pairwise_map]
    exact (Rule.offsets_ordered member _).imp fun before => rule.finding_before rule text before
  · intro diagnostic
    rw [List.mem_filter,decide_eq_true_eq,List.mem_map,findings]
    constructor
    · rintro ⟨⟨other,otherMember,offset,reports,rfl⟩,code⟩
      obtain rfl := Rule.eq_of_code otherMember member code
      exact ⟨offset,(Rule.mem_offsets member _ _).mpr reports,rfl⟩
    · rintro ⟨offset,found,rfl⟩
      exact ⟨⟨rule,member,offset,(Rule.mem_offsets member _ _).mp found,rfl⟩,rfl⟩

theorem length_filter_code {rule : Rule} (member : rule ∈ Rule.all) (text : Text) :
    ((lint text).filter (fun diagnostic => diagnostic.code = rule.code)).length =
      {offset | rule.ReportsAt text offset}.ncard := by
  have distinct : (rule.offsets (Comment.neutralize text)).Nodup :=
    (Rule.offsets_ordered member _).imp Nat.ne_of_lt
  have offsets : {offset | rule.ReportsAt text offset} =
      ↑(rule.offsets (Comment.neutralize text)).toFinset := by
    ext offset
    rw [List.coe_toFinset]
    exact (Rule.mem_offsets member _ _).symm
  rw [filter_code_eq member,List.length_map,offsets,Set.ncard_coe_finset,
    List.toFinset_card_of_nodup distinct]

/-- An altered table is reported exactly when a column is dropped behind it and the nearest altered
table in front of it, if there is one, has a dropped column behind it by then. As many are reported as
columns are dropped right behind an altered table. -/
theorem lint_columnDrops (text : Text) :
    ReportsExactly text Rule.alterDrop (fun start => AltersTableAt text start ∧
      (∃ later, start < later ∧ DropsColumnAt text later) ∧
      ((∀ previous < start, ¬ AltersTableAt text previous) ∨
        ∃ previous, Nearest (AltersTableAt text) start previous ∧
          ∃ between, previous < between ∧ between < start ∧ DropsColumnAt text between)) ∧
    ((lint text).filter (fun diagnostic => diagnostic.code = Code.alterDrop)).length =
      {place | DropsColumnAt text place ∧ ∃ previous,
        Nearest (fun offset => AltersTableAt text offset ∨ DropsColumnAt text offset) place previous ∧
          AltersTableAt text previous}.ncard := by
  have member : Rule.alterDrop ∈ Rule.all := by simp [Rule.all]
  constructor
  · refine reportsExactly member fun start => ?_
    have previous := not_openAt_iff (.ofStrings ["ALTER","TABLE"]) (.ofStrings ["DROP","COLUMN"])
      (Comment.neutralize text) start
    exact and_congr_right fun _ => and_congr_right fun _ => previous
  · have bracket : Bracket (.ofStrings ["ALTER","TABLE"]) (.ofStrings ["DROP","COLUMN"]) :=
      Rule.wellFormed member
    exact (length_filter_code member text).trans (ncard_spanAt bracket (Comment.neutralize text))

end SchemaLint
