import SchemaLint.Proofs.Lint.Order
import SchemaLint.Proofs.Comment.Insertion
import SchemaLint.Proofs.Rule.Widening

/-! Linting a text into whose code a block comment is put, next to a gap. The comment reads as a wider
gap: the findings have the same codes in the same order, each at its offset or behind the comment.
-/
namespace SchemaLint
open Text

theorem reports_relocated {move : Nat → Nat} {text other : Text}
    (relocates : Relocates move (Comment.neutralize text) (Comment.neutralize other)) :
    reports other = (reports text).map fun (rule,offset) => (rule,move offset) := by
  have moved : (Rule.all.flatMap fun rule =>
        (rule.offsets (Comment.neutralize other)).map (rule,·)) =
      Rule.all.flatMap fun rule =>
        ((rule.offsets (Comment.neutralize text)).map move).map (rule,·) := by
    refine List.flatMap_congr fun rule member => ?_
    rw [Rule.offsets_relocated member relocates]
  have ordered (a b : Rule × Nat) : decide (a.2 ≤ b.2) = decide (move a.2 ≤ move b.2) :=
    decide_eq_decide.mpr relocates.mono.le_iff_le.symm
  unfold reports
  refine Eq.trans ?_ (List.map_mergeSort (s := fun a b => decide (a.2 ≤ b.2)) fun a _ b _ =>
    ordered a b).symm
  rw [moved,List.map_flatMap]
  simp only [List.map_map,Function.comp_def]

namespace Comment

theorem parts_neutralize {front back : Text} (loose : Loose front back) :
    Parts (neutralize front) (neutralize back) := by
  rcases loose with rfl | rfl | ⟨c,last,gap⟩ | ⟨c,first,gap⟩
  · exact .inl rfl
  · exact .inr stops_nil
  · obtain ⟨front,rfl⟩ := List.getLast?_eq_some_iff.mp last
    obtain ⟨written,isGap,shape⟩ := neutralize_gap gap front
    left
    rw [shape,blankFrom]
    exact Phrase.not_endsInWord_gap _ (by simp) (by simpa using isGap)
  · obtain ⟨back,rfl⟩ := List.head?_eq_some_iff.mp first
    obtain ⟨written,isGap,shape⟩ := neutralize_gap gap []
    right
    rw [← List.nil_append (c :: back),shape]
    exact stops_cons.mpr (isWord_eq_false_of_isGap isGap)

theorem relocates_insert {front body back : Text} (inCode : after .code front = .code)
    (unclosed : ¬ ['*','/'] <:+: body) (loose : Loose front back) :
    Relocates (widened front.length (block body).length) (neutralize (front ++ back))
      (neutralize (front ++ block body ++ back)) := by
  have gaps : ∀ c ∈ List.replicate (block body).length ' ', isGap c = true := by simp [isGap]
  have widens := relocates_widened (parts_neutralize loose) (by simp [block]) gaps
  rw [length_neutralize,List.length_replicate] at widens
  rw [neutralize_append inCode loose,neutralize_insert inCode unclosed]
  exact widens

end Comment

/-- A block comment that is put into the code of a text next to a gap, or at an end of it, changes
neither the codes that are found nor their order. What is found in front of the comment stays at its
offset, and what is found behind it moves by the comment's length. -/
theorem lint_insertComment {front body back : Text} (inCode : Comment.after .code front = .code)
    (unclosed : ¬ ['*','/'] <:+: body) (loose : Comment.Loose front back) :
    ∃ plain commented, lintWith Rule.all (front ++ back) = .ok plain ∧
      lintWith Rule.all (front ++ Comment.block body ++ back) = .ok commented ∧
      commented.map Diagnostic.code = plain.map Diagnostic.code ∧
      (∃ found : List (Rule × Nat),
        plain = found.map (fun (rule,offset) => rule.finding (front ++ back) offset) ∧
        commented = found.map fun (rule,offset) =>
          rule.finding (front ++ Comment.block body ++ back)
            (widened front.length (Comment.block body).length offset)) ∧
      ∀ rule ∈ Rule.all,
        rule.offsets (Comment.neutralize (front ++ Comment.block body ++ back)) =
          (rule.offsets (Comment.neutralize (front ++ back))).map
            (widened front.length (Comment.block body).length) := by
  have relocates := Comment.relocates_insert inCode unclosed loose
  have commented := lint_eq_reports (front ++ Comment.block body ++ back)
  rw [reports_relocated relocates,List.map_map] at commented
  refine ⟨lint (front ++ back),lint (front ++ Comment.block body ++ back),(lint_spec _).1,
    (lint_spec _).1,?_,⟨reports (front ++ back),lint_eq_reports _,commented⟩,
    fun rule member => Rule.offsets_relocated member relocates⟩
  rw [commented,lint_eq_reports (front ++ back),List.map_map,List.map_map]
  rfl

/-- The comment parts the two words of a phrase in front of a gap, and has a keyword, an opener and a
star at its end in it. -/
theorem lint_insertComment_phrase :
    let front := "- drop".toList
    let body := "/ begin -- *".toList
    let back := " table t".toList
    let comment := Comment.block body
    Comment.after .code front = .code ∧ ¬ ['*','/'] <:+: body ∧ Comment.Loose front back ∧
      ∃ plain commented, lintWith Rule.all (front ++ back) = .ok plain ∧
        lintWith Rule.all (front ++ comment ++ back) = .ok commented ∧
        commented.map Diagnostic.code = plain.map Diagnostic.code ∧
        (∃ found : List (Rule × Nat),
          plain = found.map (fun (rule,offset) => rule.finding (front ++ back) offset) ∧
          commented = found.map fun (rule,offset) =>
            rule.finding (front ++ comment ++ back) (widened front.length comment.length offset)) ∧
        ∀ rule ∈ Rule.all, rule.offsets (Comment.neutralize (front ++ comment ++ back)) =
          (rule.offsets (Comment.neutralize (front ++ back))).map
            (widened front.length comment.length) := by
  intro front body back comment
  have inCode : Comment.after .code front = .code := by decide
  have unclosed : ¬ ['*','/'] <:+: body := by decide
  have loose : Comment.Loose front back := .inr (.inr (.inr ⟨' ',rfl,rfl⟩))
  exact ⟨inCode,unclosed,loose,lint_insertComment inCode unclosed loose⟩

end SchemaLint
