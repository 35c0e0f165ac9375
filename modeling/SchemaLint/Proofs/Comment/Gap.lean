import SchemaLint.Proofs.Comment.Region
import SchemaLint.Proofs.Text.Run
import SchemaLint.Text.Word

/-! Gaps and comments. A gap belongs to no delimiter, so a text may be cut in front of a gap and behind
it, and what a comment makes of a gap is a gap.
-/
namespace SchemaLint.Comment
open Text

theorem clear_gap {c : Char} (gap : isGap c = true) (region : Region) (rest : Text) :
    Clear region (c :: rest) := by
  have different (d : Char) (other : isGap d = false) : c ≠ d := by
    rintro rfl
    rw [gap] at other
    cases other
  cases region with
  | code => exact ⟨by simpa using different '-' (by decide),by simpa using different '*' (by decide)⟩
  | line => trivial
  | block => simpa [Clear] using different '/' (by decide)

theorem not_opens_gap {c : Char} (gap : isGap c = true) (rest : Text) : ¬ Opens (c :: rest) := by
  rw [opens_cons]
  rintro (⟨rfl,-⟩ | ⟨rfl,-⟩) <;> cases gap

theorem not_closes_gap {c : Char} (gap : isGap c = true) (rest : Text) : ¬ Closes (c :: rest) := by
  rw [closes_cons]
  rintro ⟨rfl,-⟩
  cases gap

theorem blankFrom_gap {c : Char} (gap : isGap c = true) (region : Region) :
    ∃ written, isGap written = true ∧ ∀ rest,
      blankFrom region (c :: rest) = written :: blankFrom (after region [c]) rest := by
  cases region with
  | code =>
    refine ⟨c,gap,fun rest => ?_⟩
    rw [blankFrom_code_cons (not_opens_gap gap rest),after_code_cons (not_opens_gap gap []),after]
  | line =>
    by_cases feed : c = '\n'
    · subst feed
      exact ⟨'\n',gap,fun _ => rfl⟩
    · refine ⟨' ',rfl,fun rest => ?_⟩
      rw [blankFrom_line_cons feed,after_line_cons feed,after]
  | block =>
    refine ⟨' ',rfl,fun rest => ?_⟩
    rw [blankFrom_block_cons (not_closes_gap gap rest),after_block_cons (not_closes_gap gap []),after]

/-- A gap may be read on its own: what stands in front of it and behind it is read as before. -/
theorem neutralize_gap {c : Char} (gap : isGap c = true) (front : Text) :
    ∃ written, isGap written = true ∧ ∀ back, neutralize (front ++ c :: back) =
      neutralize front ++ written :: blankFrom (after .code (front ++ [c])) back := by
  obtain ⟨written,isGap,shape⟩ := blankFrom_gap gap (after .code front)
  refine ⟨written,isGap,fun back => ?_⟩
  rw [neutralize_eq,neutralize_eq,blankFrom_append .code front _ (clear_gap gap _ back),shape,
    after_append .code front _ (clear_gap gap _ [])]

end SchemaLint.Comment
