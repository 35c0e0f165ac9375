import SchemaLint.Proofs.Comment.Gap
import SchemaLint.Proofs.Comment.Segmentation

/-! Block comments that are put into code. Next to a gap, or at an end of the text, no delimiter lies
across the place, so the code on both sides is read as before.
-/
namespace SchemaLint.Comment
open Text

def block (body : Text) : Text :=
  '/' :: '*' :: (body ++ ['*','/'])

/-- Whether a cut of a text lies at an end of the text or next to a gap. -/
def Loose (front back : Text) : Prop :=
  front = [] ∨ back = [] ∨ (∃ c ∈ front.getLast?, isGap c = true) ∨ ∃ c ∈ back.head?, isGap c = true

theorem neutralize_append {front back : Text} (inCode : after .code front = .code)
    (loose : Loose front back) :
    neutralize (front ++ back) = neutralize front ++ neutralize back := by
  rcases loose with rfl | rfl | ⟨c,last,gap⟩ | ⟨c,first,gap⟩
  · rfl
  · rw [List.append_nil,neutralize_eq [],blankFrom,List.append_nil]
  · obtain ⟨front,rfl⟩ := List.getLast?_eq_some_iff.mp last
    obtain ⟨written,-,shape⟩ := neutralize_gap gap front
    rw [List.append_assoc,List.singleton_append,shape,shape,inCode,neutralize_eq back]
    simp [blankFrom]
  · obtain ⟨back,rfl⟩ := List.head?_eq_some_iff.mp first
    rw [neutralize_eq,neutralize_eq,neutralize_eq,
      blankFrom_append .code front _ (clear_gap gap _ back),inCode]

/-- A comment that closes is whole wherever it stands: the star in front of its end closes nothing. -/
theorem whole_block {body : Text} (unclosed : ¬ ['*','/'] <:+: body) (rest : Text) :
    Whole (block body) rest := by
  refine .closed ?_
  rw [List.infix_concat_iff,not_or]
  refine ⟨?_,unclosed⟩
  rintro ⟨before,equal⟩
  have last := congrArg List.getLast? equal
  simp at last

theorem neutralize_insert {front body : Text} (inCode : after .code front = .code)
    (unclosed : ¬ ['*','/'] <:+: body) (back : Text) :
    neutralize (front ++ block body ++ back) =
      neutralize front ++ List.replicate (block body).length ' ' ++ neutralize back := by
  have clear : Clear (after .code front) (block body ++ back) := by
    rw [inCode]
    exact ⟨by simp [block],by simp [block]⟩
  rw [List.append_assoc,neutralize_eq,blankFrom_append .code front _ clear,inCode,
    blankFrom_whole (whole_block unclosed back),neutralize_eq,neutralize_eq,List.append_assoc]

end SchemaLint.Comment
