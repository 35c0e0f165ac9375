import SchemaLint.Diagnostic
import SchemaLint.Proofs.Text.LineAt

/-! What is reported of a rule at an offset of a text. Findings stand in the order of their offsets,
so no two offsets have one line and column.
-/
namespace SchemaLint
open Text

/-- The diagnostic of a rule at an offset: the line feeds in front of the offset count its line, the
column counts from the last of them, and the line around the offset is trimmed. -/
def Rule.finding (rule : Rule) (text : Text) (offset : Nat) : Diagnostic where
  code := rule.code
  message := rule.message
  line := (text.take offset).count '\n' + 1
  column := offset - ((text.take offset).length - (lineBefore (text.take offset)).length) + 1
  snippet := trim (lineBefore (text.take offset) ++ lineBehind (text.drop offset))
  line_pos := Nat.succ_pos _
  column_pos := Nat.succ_pos _

theorem Position.anchor_natCast (length offset : Nat) : anchor length (offset : Int) = offset := by
  unfold anchor
  rw [if_neg (by omega)]
  rfl

namespace Diagnostic

def Before (a b : Diagnostic) : Prop :=
  a.line < b.line ∨ a.line = b.line ∧ a.column < b.column

theorem Before.trans {a b c : Diagnostic} (first : a.Before b) (second : b.Before c) :
    a.Before c := by
  unfold Before at *
  omega

theorem before_irrefl (a : Diagnostic) : ¬ a.Before a := by
  unfold Before
  omega

theorem Before.asymm {a b : Diagnostic} (first : a.Before b) : ¬ b.Before a :=
  fun second => before_irrefl a (first.trans second)

theorem positive_ofNat (location : List Text) {n : Nat} (positive : 1 ≤ n) :
    Record.positive location (n : Int) = .ok ⟨n,positive⟩ := by
  unfold Record.positive
  rw [dif_pos (by simpa using positive)]
  rfl

theorem within_eq (rule : Rule) (text : Text) (offset : Nat) :
    Position.within text.length (lines text) offset =
      { line := (rule.finding text offset).line
        column := (rule.finding text offset).column
        snippet := (rule.finding text offset).snippet } := by
  have bound := length_lineBefore_le (text.take offset)
  have short := List.length_take_le offset text
  unfold Position.within
  rw [Position.anchor_natCast,lineAt_lines]
  dsimp only [Line.across,Rule.finding]
  congr 1
  omega

/-- No rule is refused a place in a text. -/
theorem ofPosition_within (rule : Rule) (text : Text) (offset : Nat) :
    ofPosition rule (Position.within text.length (lines text) offset) =
      .ok (rule.finding text offset) := by
  rw [within_eq rule]
  unfold ofPosition
  dsimp only
  rw [positive_ofNat _ (rule.finding text offset).line_pos,
    positive_ofNat _ (rule.finding text offset).column_pos]
  rfl

theorem ofPosition_negative (rule : Rule) (text : Text) {offset : Int} (negative : offset < 0) :
    ofPosition rule (Position.within text.length (lines text) offset) =
      Checked.fail ["column".toList] .belowOne := by
  have column : ¬ 1 ≤ (Position.within text.length (lines text) offset).column.toNat := by
    unfold Position.within
    dsimp only
    omega
  have line : 1 ≤ (Position.within text.length (lines text) offset).line := by
    unfold Position.within
    rw [lineAt_lines]
    exact Nat.succ_pos _
  unfold ofPosition
  rw [positive_ofNat _ line]
  unfold Record.positive
  rw [dif_neg column]
  rfl

def IsAt (diagnostic : Diagnostic) (text : Text) (offset : Nat) : Prop :=
  diagnostic.line = (Position.ofOffset text offset).line ∧
    (diagnostic.column : Int) = (Position.ofOffset text offset).column

instance (diagnostic : Diagnostic) (text : Text) (offset : Nat) :
    Decidable (diagnostic.IsAt text offset) :=
  inferInstanceAs (Decidable (_ ∧ _))

end Diagnostic

theorem Rule.finding_before (rule other : Rule) (text : Text) {first second : Nat}
    (ordered : first < second) : (rule.finding text first).Before (other.finding text second) := by
  have bound := length_lineBefore_le (text.take first)
  have short := List.length_take_le first text
  have parts : text.take second = text.take first ++ (text.drop first).take (second - first) := by
    rw [← List.take_add,Nat.add_sub_cancel' ordered.le]
  by_cases feed : '\n' ∈ (text.drop first).take (second - first)
  · left
    have counted := List.count_pos_iff.mpr feed
    simp only [Rule.finding,parts,List.count_append]
    omega
  · right
    have none := List.count_eq_zero.mpr feed
    simp only [Rule.finding,parts,List.count_append,none,lineBefore_append _ feed,List.length_append,
      Nat.add_zero,true_and]
    omega

theorem Rule.finding_feed (rule : Rule) {front : Text} (back : Text) {offset : Nat}
    (inside : offset ≤ front.length) :
    rule.finding (front ++ '\n' :: back) offset = rule.finding front offset := by
  have before : (front ++ '\n' :: back).take offset = front.take offset :=
    List.take_append_of_le_length inside
  have behind : lineBehind ((front ++ '\n' :: back).drop offset) =
      lineBehind (front.drop offset) := by
    rw [List.drop_append_of_le_length inside,lineBehind_append_feed]
  unfold finding
  simp only [before,behind]

theorem Rule.finding_isAt_iff (rule : Rule) (text : Text) (offset other : Nat) :
    (rule.finding text offset).IsAt text other ↔ offset = other := by
  have equal : Position.ofOffset text other = _ := Diagnostic.within_eq rule text other
  unfold Diagnostic.IsAt
  rw [equal]
  constructor
  · rintro ⟨line,column⟩
    dsimp only at line column
    rcases Nat.lt_trichotomy offset other with before | same | after
    · have apart := rule.finding_before rule text before
      unfold Diagnostic.Before at apart
      omega
    · exact same
    · have apart := rule.finding_before rule text after
      unfold Diagnostic.Before at apart
      omega
  · rintro rfl
    exact ⟨rfl,rfl⟩

end SchemaLint
