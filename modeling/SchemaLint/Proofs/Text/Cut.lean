import SchemaLint.Text.Blank
import Mathlib.Data.List.Basic

/-! Texts cut at a separator. Where the separator is not found on one side of the cut, the whole text
tells both sides; lines are told by the text in which each of them is ended.
-/
namespace SchemaLint.Text

variable {separator : Char} {front back other behind : Text}

theorem cut_last (same : front ++ separator :: back = other ++ separator :: behind)
    (clear : separator ∉ back) (otherClear : separator ∉ behind) : front = other ∧ back = behind := by
  rcases List.append_eq_append_iff.mp same with ⟨rest,parts,more⟩ | ⟨rest,parts,more⟩
  · cases rest with
    | nil =>
      rw [List.append_nil] at parts
      exact ⟨parts.symm,(List.cons.inj more).2⟩
    | cons c rest =>
      refine absurd ?_ clear
      rw [(List.cons.inj more).2]
      simp
  · cases rest with
    | nil =>
      rw [List.append_nil] at parts
      exact ⟨parts,(List.cons.inj more).2.symm⟩
    | cons c rest =>
      refine absurd ?_ otherClear
      rw [(List.cons.inj more).2]
      simp

theorem cut_first (same : front ++ separator :: back = other ++ separator :: behind)
    (clear : separator ∉ front) (otherClear : separator ∉ other) :
    front = other ∧ back = behind := by
  have reversed := congrArg List.reverse same
  simp only [List.reverse_append,List.reverse_cons,List.append_assoc,List.singleton_append] at reversed
  obtain ⟨backs,fronts⟩ := cut_last reversed (by simpa using clear) (by simpa using otherClear)
  exact ⟨List.reverse_inj.mp fronts,List.reverse_inj.mp backs⟩

def ended (lines : List Text) : Text :=
  lines.flatMap (· ++ ['\n'])

theorem ended_injective {lines others : List Text} (same : ended lines = ended others)
    (clear : ∀ line ∈ lines, '\n' ∉ line) (otherClear : ∀ line ∈ others, '\n' ∉ line) :
    lines = others := by
  induction lines generalizing others with
  | nil =>
    cases others with
    | nil => rfl
    | cons line others => simp [ended] at same
  | cons line lines ih =>
    cases others with
    | nil => simp [ended] at same
    | cons other others =>
      simp only [ended,List.flatMap_cons,List.append_assoc,List.singleton_append] at same
      obtain ⟨rfl,rest⟩ := cut_first same (clear line List.mem_cons_self)
        (otherClear other List.mem_cons_self)
      rw [ih rest (fun line member => clear line (List.mem_cons_of_mem _ member))
        fun line member => otherClear line (List.mem_cons_of_mem _ member)]

end SchemaLint.Text
