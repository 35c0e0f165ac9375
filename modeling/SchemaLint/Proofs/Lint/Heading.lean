import SchemaLint.Proofs.Lint.Order

/-! What a finding tells besides its snippet. Code and message are the rule's, line and column follow from
where the line feeds of the text are, so texts with the same line feeds may be compared by what is
found in them.
-/
namespace SchemaLint
open Text

/-- All that a diagnostic tells but the line itself: code, message, line and column. -/
def Diagnostic.heading (diagnostic : Diagnostic) : Code × Text × Nat × Nat :=
  (diagnostic.code,diagnostic.message,diagnostic.line,diagnostic.column)

namespace Text

def SameFeeds (text other : Text) : Prop :=
  List.Forall₂ (fun c d => c = '\n' ↔ d = '\n') text other

instance (text other : Text) : Decidable (SameFeeds text other) :=
  inferInstanceAs (Decidable (List.Forall₂ _ text other))

variable {text other : Text}

theorem SameFeeds.take (same : SameFeeds text other) (n : Nat) :
    SameFeeds (text.take n) (other.take n) :=
  List.forall₂_take n same

theorem SameFeeds.count_eq (same : SameFeeds text other) : text.count '\n' = other.count '\n' := by
  induction same with
  | nil => rfl
  | cons feeds _ ih =>
    rw [List.count_cons,List.count_cons,ih]
    simp only [beq_iff_eq,feeds]

theorem SameFeeds.length_lineBehind_eq (same : SameFeeds text other) :
    (lineBehind text).length = (lineBehind other).length := by
  induction same with
  | nil => rfl
  | @cons c d rest behind feeds _ ih =>
    by_cases feed : c = '\n'
    · rw [feed,feeds.mp feed,lineBehind_feed,lineBehind_feed]
    · have inLine : d ≠ '\n' := fun feed' => feed (feeds.mpr feed')
      rw [lineBehind_cons _ feed,lineBehind_cons _ inLine,List.length_cons,List.length_cons,ih]

theorem SameFeeds.length_lineBefore_eq (same : SameFeeds text other) :
    (lineBefore text).length = (lineBefore other).length := by
  have reversed : SameFeeds text.reverse other.reverse := List.forall₂_reverse_iff.mpr same
  unfold lineBefore List.rtakeWhile
  rw [List.length_reverse,List.length_reverse]
  exact reversed.length_lineBehind_eq

end Text

theorem Rule.finding_heading (rule : Rule) {text other : Text} (same : SameFeeds text other)
    (offset : Nat) : (rule.finding text offset).heading = (rule.finding other offset).heading := by
  have before := same.take offset
  unfold Diagnostic.heading finding
  dsimp only
  rw [before.count_eq,before.length_lineBefore_eq,List.Forall₂.length_eq before]

/-- Where two texts have the same line feeds and the same is reported at the same offsets, the findings
have the same headings. -/
theorem lint_headings {text other : Text} (same : SameFeeds text other)
    (reported : reports text = reports other) :
    (lint text).map Diagnostic.heading = (lint other).map Diagnostic.heading := by
  rw [lint_eq_reports,lint_eq_reports,reported,List.map_map,List.map_map]
  exact List.map_congr_left fun (rule,offset) _ => rule.finding_heading same offset

end SchemaLint
