import SchemaLint.Proofs.Lint
import SchemaLint.Proofs.Comment.Gap
import SchemaLint.Proofs.Rule.Continuation

/-! Linting a text to which lines are added. Whatever the text ends in, a comment, half a phrase or an
altered table, its findings stay what they are.
-/
namespace SchemaLint
open Text

theorem Rule.ReportsAt.append_feed {rule : Rule} (member : rule ∈ Rule.all) {front : Text}
    (back : Text) {offset : Nat} (reports : rule.ReportsAt front offset) :
    rule.ReportsAt (front ++ '\n' :: back) offset := by
  obtain ⟨written,gap,shape⟩ := Comment.neutralize_gap (c := '\n') rfl front
  unfold ReportsAt
  rw [shape]
  exact Pattern.StartsAt.append (Rule.wellFormed member)
    (stops_cons.mpr (isWord_eq_false_of_isGap gap)) reports

theorem lint_subset_feed (front back : Text) : lint front ⊆ lint (front ++ '\n' :: back) := by
  intro diagnostic member
  obtain ⟨rule,registered,offset,reports,rfl⟩ := ((lint_spec front).2.2 diagnostic).mp member
  rw [← rule.finding_feed back (reports.lt_length registered).le]
  exact ((lint_spec _).2.2 _).mpr ⟨rule,registered,offset,reports.append_feed registered back,rfl⟩

/-- Lines that are added hide no finding and move none. -/
theorem lint_sublist_appendLines (front back : Text) :
    ∃ findings more, lintWith Rule.all front = .ok findings ∧
      lintWith Rule.all (front ++ "\n".toList ++ back) = .ok more ∧ findings.Sublist more := by
  have lines : front ++ "\n".toList ++ back = front ++ '\n' :: back := by simp
  obtain ⟨ok,ordered,found⟩ := lint_spec front
  obtain ⟨okMore,orderedMore,foundMore⟩ := lint_spec (front ++ '\n' :: back)
  rw [lines]
  refine ⟨lint front,lint (front ++ '\n' :: back),ok,okMore,?_⟩
  refine List.sublist_of_subperm_of_pairwise (List.subperm_of_subset ordered.nodup ?_) ordered
    orderedMore
  intro diagnostic member
  obtain ⟨rule,registered,offset,reports,rfl⟩ := (found diagnostic).mp member
  have inside := reports.lt_length registered
  exact (foundMore _).mpr ⟨rule,registered,offset,reports.append_feed registered back,
    (rule.finding_feed back inside.le).symm⟩

end SchemaLint
