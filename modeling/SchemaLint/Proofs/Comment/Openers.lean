import SchemaLint.Proofs.Comment.Gap
import SchemaLint.Proofs.Comment.Segmentation

/-! Texts without openers. What is left of a text whose comments are blanked has no opener in it, not
even across a place where a comment stood, and a text without openers is left as it is.
-/
namespace SchemaLint.Comment
open Text

theorem head?_blankFrom (region : Region) (text : Text) :
    (blankFrom region text).head? = text.head? ∨ (blankFrom region text).head? = some ' ' := by
  have each := blankFrom_forall₂ region text
  cases text with
  | nil =>
    rw [List.forall₂_nil_left_iff.mp each]
    exact .inl rfl
  | cons c rest =>
    obtain ⟨blanked,behind,first,-,shape⟩ := List.forall₂_cons_left_iff.mp each
    rw [shape]
    rcases first with rfl | rfl
    · exact .inl rfl
    · exact .inr rfl

theorem not_opens_blankFrom {c : Char} {rest : Text} (plain : ¬ Opens (c :: rest))
    (region : Region) : ¬ Opens (c :: blankFrom region rest) := by
  rw [opens_cons] at plain ⊢
  rcases head?_blankFrom region rest with same | space
  · rw [same]
    exact plain
  · simp [space]

theorem plain_gap {c : Char} (gap : isGap c = true) {rest : Text} (plain : Plain rest []) :
    Plain (c :: rest) [] :=
  plain_cons.mpr ⟨not_opens_gap gap _,plain⟩

/-- No comment opens in a text whose comments are blanked. -/
theorem plain_blankFrom (region : Region) (text : Text) : Plain (blankFrom region text) [] := by
  fun_induction blankFrom region text with
  | case1 region => exact plain_nil []
  | case2 rest ih => exact plain_gap rfl (plain_gap rfl ih)
  | case3 rest ih => exact plain_gap rfl (plain_gap rfl ih)
  | case4 c rest notLine notBlock ih =>
    have plain : ¬ Opens (c :: rest) := by
      rw [opens_cons]
      cases rest <;> simp_all
    refine plain_cons.mpr ⟨?_,ih⟩
    rw [List.append_nil]
    exact not_opens_blankFrom plain .code
  | case5 rest ih => exact plain_gap rfl ih
  | case6 c rest inLine ih => exact plain_gap rfl ih
  | case7 rest ih => exact plain_gap rfl (plain_gap rfl ih)
  | case8 c rest inBlock ih => exact plain_gap rfl ih

theorem plain_iff_noOpener (text : Text) :
    Plain text [] ↔ ¬ ['-','-'] <:+: text ∧ ¬ ['/','*'] <:+: text := by
  induction text with
  | nil => simp [plain_nil]
  | cons c text ih =>
    rw [plain_cons,ih,List.append_nil,List.infix_cons_iff,List.infix_cons_iff]
    unfold Opens
    tauto

theorem neutralize_plain {text : Text} (plain : Plain text []) : neutralize text = text := by
  have kept := blankFrom_plain plain
  rw [List.append_nil,blankFrom,List.append_nil] at kept
  rw [neutralize_eq,kept]

/-- Neutralising leaves no opener behind, so a second time it changes nothing. The texts that it
leaves as they are, are those without an opener. -/
theorem neutralize_idempotent (text : Text) :
    (¬ ['-','-'] <:+: neutralize text ∧ ¬ ['/','*'] <:+: neutralize text) ∧
      neutralize (neutralize text) = neutralize text ∧
      (neutralize text = text ↔ ¬ ['-','-'] <:+: text ∧ ¬ ['/','*'] <:+: text) := by
  have plain : Plain (neutralize text) [] := by
    rw [neutralize_eq]
    exact plain_blankFrom .code text
  refine ⟨(plain_iff_noOpener _).mp plain,neutralize_plain plain,?_⟩
  rw [← plain_iff_noOpener]
  constructor
  · intro same
    rwa [same] at plain
  · exact neutralize_plain

end SchemaLint.Comment
