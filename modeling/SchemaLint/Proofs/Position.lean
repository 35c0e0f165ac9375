import SchemaLint.Proofs.Finding
import Mathlib.Algebra.GroupWithZero.Nat

/-! Offsets and positions. Line and column of an offset tell the offset again, and they grow with it,
beyond the end of the text too. Offsets in front of the text lie in one of its lines as well, but left
of it, which is what a diagnostic refuses.
-/
namespace SchemaLint

namespace Text

theorem length_splitOn_feed (text : Text) : (text.splitOn '\n').length = text.count '\n' + 1 := by
  induction text with
  | nil => rfl
  | cons c text ih =>
    rw [List.splitOn_cons_eq_if_modifyHead]
    by_cases feed : c = '\n' <;> simp [feed,ih]

theorem sum_splitOn_feed (text : Text) :
    ((text.splitOn '\n').map (·.length + 1)).sum = text.length + 1 := by
  induction text with
  | nil => rfl
  | cons c text ih =>
    obtain ⟨first,more,shape⟩ := List.exists_cons_of_ne_nil (List.splitOn_ne_nil '\n' text)
    rw [List.splitOn_cons_eq_if_modifyHead]
    by_cases feed : c = '\n'
    · rw [if_pos (by simpa using feed),List.map_cons,List.sum_cons,ih]
      exact Nat.add_comm _ _
    · rw [if_neg (by simpa using feed),shape,List.modifyHead_cons,List.map_cons,List.sum_cons]
      rw [shape,List.map_cons,List.sum_cons] at ih
      simp only [List.length_cons]
      omega

theorem splitOn_lineBehind (text : Text) : ∃ more, text.splitOn '\n' = lineBehind text :: more := by
  induction text with
  | nil => exact ⟨[],rfl⟩
  | cons c text ih =>
    obtain ⟨more,shape⟩ := ih
    rw [List.splitOn_cons_eq_if_modifyHead,shape]
    by_cases feed : c = '\n'
    · exact ⟨lineBehind text :: more,by simp [feed]⟩
    · exact ⟨more,by simp [feed,lineBehind_cons]⟩

theorem splitOn_across (before behind : Text) :
    ∃ front back : List Text, (before ++ behind).splitOn '\n' =
        front ++ (lineBefore before ++ lineBehind behind) :: back ∧
      front.length = before.count '\n' ∧
      (front.map (·.length + 1)).sum + (lineBefore before).length = before.length := by
  induction before using List.reverseRecOn generalizing behind with
  | nil =>
    obtain ⟨more,shape⟩ := splitOn_lineBehind behind
    exact ⟨[],more,shape,rfl,rfl⟩
  | append_singleton before c ih =>
    rw [List.append_assoc,List.singleton_append]
    by_cases feed : c = '\n'
    · obtain ⟨more,shape⟩ := splitOn_lineBehind behind
      refine ⟨before.splitOn '\n',more,?_,?_,?_⟩
      · rw [feed,List.splitOn_append_cons_self,shape,lineBefore_concat_feed,List.nil_append]
      · simp [feed,length_splitOn_feed]
      · rw [feed,lineBefore_concat_feed,sum_splitOn_feed]
        simp
    · obtain ⟨front,back,shape,number,size⟩ := ih (c :: behind)
      refine ⟨front,back,?_,?_,?_⟩
      · rw [shape,lineBefore_concat _ feed,lineBehind_cons _ feed,List.append_assoc,
          List.singleton_append]
      · simp [number,feed]
      · rw [lineBefore_concat _ feed]
        simp only [List.length_append,List.length_singleton]
        omega

theorem getLast?_splitOn_feed (text : Text) :
    (text.splitOn '\n').getLast? = some (lineBefore text) := by
  obtain ⟨front,back,shape,number,-⟩ := splitOn_across text []
  rw [List.append_nil,lineBehind_nil,List.append_nil] at shape
  have last : back = [] := by
    have size := length_splitOn_feed text
    rw [shape,List.length_append,List.length_cons,number] at size
    apply List.length_eq_zero_iff.mp
    omega
  rw [shape,last]
  simp

theorem length_lineBefore (text : Text) : (lineBefore text).length = text.reverse.idxOf '\n' := by
  induction text using List.reverseRecOn with
  | nil => rfl
  | append_singleton text c ih =>
    rw [List.reverse_append,List.reverse_singleton,List.singleton_append]
    by_cases feed : c = '\n'
    · rw [feed,lineBefore_concat_feed,List.idxOf_cons_self]
      rfl
    · rw [lineBefore_concat _ feed,List.idxOf_cons_ne _ (by simpa using feed),← ih]
      simp

theorem length_lineBehind (text : Text) : (lineBehind text).length = text.idxOf '\n' := by
  induction text with
  | nil => rfl
  | cons c text ih =>
    by_cases feed : c = '\n'
    · rw [feed,lineBehind_feed,List.idxOf_cons_self]
      rfl
    · rw [lineBehind_cons _ feed,List.idxOf_cons_ne _ (by simpa using feed),← ih]
      rfl

end Text

namespace Position
open Text

def Before (a b : Position) : Prop :=
  a.line < b.line ∨ a.line = b.line ∧ a.column < b.column

/-- The number of characters in front of a line, line feeds included. -/
def lengthBefore (lines : List Text) (number : Nat) : Nat :=
  ((lines.take (number - 1)).map (·.length + 1)).sum

structure Locates (position : Position) (lines : List Text) (offset : Nat) : Prop where
  line_pos : 1 ≤ position.line
  line_le : position.line ≤ lines.length
  column_pos : 1 ≤ position.column
  offset_eq : (offset : Int) = lengthBefore lines position.line + position.column - 1
  content : ∃ line, lines[position.line - 1]? = some line ∧ position.column ≤ line.length + 1 ∧
    position.snippet = trim line

/-- The position that searches for line feeds tell: for the last one in front of the offset and the
first one behind it. -/
def searched (text : Text) (offset : Int) : Position :=
  let before := text.take (anchor text.length offset)
  let behind := text.drop (anchor text.length offset)
  let start := before.length - before.reverse.idxOf '\n'
  let stop := before.length + behind.idxOf '\n'
  { line := before.count '\n' + 1
    column := offset - start + 1
    snippet := trim (text.extract start stop) }

theorem ofOffset_eq (text : Text) (offset : Int) :
    ofOffset text offset =
      { line := (text.take (anchor text.length offset)).count '\n' + 1
        column := offset - ((text.take (anchor text.length offset)).length -
          (lineBefore (text.take (anchor text.length offset))).length : Nat) + 1
        snippet := trim (lineBefore (text.take (anchor text.length offset)) ++
          lineBehind (text.drop (anchor text.length offset))) } := by
  unfold ofOffset within
  rw [lineAt_lines]
  rfl

theorem extract_across (before behind : Text) :
    (before ++ behind).extract (before.length - (lineBefore before).length)
        (before.length + (lineBehind behind).length) =
      lineBefore before ++ lineBehind behind := by
  obtain ⟨front,whole⟩ : lineBefore before <:+ before := List.rtakeWhile_suffix _ _
  obtain ⟨rest,split⟩ : lineBehind behind <+: behind := List.takeWhile_prefix _
  have cut : (before ++ behind) =
      front ++ ((lineBefore before ++ lineBehind behind) ++ rest) := by
    rw [List.append_assoc,split,← List.append_assoc,whole]
  have size := congrArg List.length whole
  rw [List.length_append] at size
  have start : before.length - (lineBefore before).length = front.length := by
    omega
  have stop : before.length + (lineBehind behind).length - front.length =
      (lineBefore before ++ lineBehind behind).length := by
    rw [List.length_append]
    omega
  rw [List.extract_eq_take_drop,cut,start,stop,List.drop_left,List.take_left]

theorem ofOffset_eq_searched (text : Text) (offset : Int) :
    ofOffset text offset = searched text offset := by
  have across := extract_across (text.take (anchor text.length offset))
    (text.drop (anchor text.length offset))
  rw [List.take_append_drop] at across
  rw [ofOffset_eq,← across]
  unfold searched
  dsimp only
  rw [length_lineBefore,length_lineBehind]

theorem ofOffset_locates {text : Text} {offset : Nat} (inside : offset ≤ text.length) :
    (ofOffset text offset).Locates (text.splitOn '\n') offset := by
  obtain ⟨front,back,shape,number,size⟩ := splitOn_across (text.take offset) (text.drop offset)
  have length : (text.take offset).length = offset := List.length_take_of_le inside
  rw [length] at size
  have start : offset - (lineBefore (text.take offset)).length =
      (front.map (·.length + 1)).sum := by
    omega
  rw [List.take_append_drop] at shape
  rw [ofOffset_eq,anchor_natCast,shape,length,start]
  refine ⟨Nat.succ_pos _,?_,?_,?_,lineBefore (text.take offset) ++ lineBehind (text.drop offset),
    ?_,?_,rfl⟩
  · simp [number]
  · dsimp only
    omega
  · unfold lengthBefore
    dsimp only
    rw [Nat.add_sub_cancel,← number,List.take_left]
    omega
  · simp [← number]
  · dsimp only
    rw [List.length_append]
    omega

theorem ofOffset_beyond {text : Text} {offset : Nat} (beyond : text.length ≤ offset) :
    (ofOffset text offset).line = (text.splitOn '\n').length ∧
      ∃ last, (text.splitOn '\n').getLast? = some last ∧
        (ofOffset text offset).snippet = trim last := by
  rw [ofOffset_eq,anchor_natCast,List.take_of_length_le beyond,List.drop_of_length_le beyond]
  refine ⟨(length_splitOn_feed text).symm,lineBefore text,getLast?_splitOn_feed text,?_⟩
  simp

theorem ofOffset_negative (text : Text) {offset : Int} (negative : offset < 0) :
    (ofOffset text offset).line = (ofOffset text (max 0 (text.length + offset))).line ∧
      (ofOffset text offset).snippet = (ofOffset text (max 0 (text.length + offset))).snippet := by
  have same : anchor text.length (max 0 (text.length + offset)) = anchor text.length offset := by
    unfold anchor
    split <;> omega
  rw [ofOffset_eq,ofOffset_eq,same]
  exact ⟨rfl,rfl⟩

theorem ofOffset_before (text : Text) {first second : Nat} (ordered : first < second) :
    (ofOffset text first).Before (ofOffset text second) := by
  have told := Rule.createOrReplace.finding_before .createOrReplace text ordered
  unfold ofOffset
  rw [Diagnostic.within_eq .createOrReplace,Diagnostic.within_eq .createOrReplace]
  unfold Diagnostic.Before at told
  unfold Before
  dsimp only
  omega

theorem column_pos_iff (text : Text) (offset : Int) :
    1 ≤ (ofOffset text offset).column ↔ 0 ≤ offset := by
  have short := List.length_take_le (anchor text.length offset) text
  rw [ofOffset_eq]
  dsimp only
  constructor
  · intro positive
    omega
  · intro natural
    lift offset to Nat using natural
    rw [anchor_natCast] at short ⊢
    omega

theorem line_pos (text : Text) (offset : Int) : 1 ≤ (ofOffset text offset).line := by
  rw [ofOffset_eq]
  exact Nat.succ_pos _

theorem ofPosition_error_iff (rule : Rule) (text : Text) (offset : Int) :
    (∃ errors, Diagnostic.ofPosition rule (ofOffset text offset) = .error errors) ↔ offset < 0 := by
  unfold ofOffset
  constructor
  · intro refused
    obtain ⟨errors,refused⟩ := refused
    by_contra natural
    lift offset to Nat using (by omega)
    rw [Diagnostic.ofPosition_within] at refused
    cases refused
  · intro negative
    exact ⟨_,Diagnostic.ofPosition_negative rule text negative⟩

/-- Offsets are embedded into positions in order, and each offset within the text is told by its
position. Any integer has a position, and those of negative ones are what a diagnostic refuses. -/
theorem ofOffset_embedding (text : Text) :
    (∀ offset : Nat, offset ≤ text.length →
      (ofOffset text offset).Locates (text.splitOn '\n') offset) ∧
    (∀ first second : Nat, first < second →
      (ofOffset text first).Before (ofOffset text second)) ∧
    (∀ offset : Nat, text.length < offset →
      (ofOffset text offset).line = (text.splitOn '\n').length ∧
        ∃ last, (text.splitOn '\n').getLast? = some last ∧
          (ofOffset text offset).snippet = trim last) ∧
    (∀ offset : Int, offset < 0 →
      (ofOffset text offset).line = (ofOffset text (max 0 (text.length + offset))).line ∧
        (ofOffset text offset).snippet =
          (ofOffset text (max 0 (text.length + offset))).snippet) ∧
    ∀ offset : Int,
      ofOffset text offset = searched text offset ∧
      1 ≤ (ofOffset text offset).line ∧
      (1 ≤ (ofOffset text offset).column ↔ 0 ≤ offset) ∧
      ∀ rule, (∃ errors, Diagnostic.ofPosition rule (ofOffset text offset) = .error errors) ↔
        offset < 0 := by
  refine ⟨?inside,?ordered,?beyond,?negative,?each⟩
  case inside =>
    intro offset inside
    exact ofOffset_locates inside
  case ordered =>
    intro first second ordered
    exact ofOffset_before text ordered
  case beyond =>
    intro offset beyond
    exact ofOffset_beyond beyond.le
  case negative =>
    intro offset negative
    exact ofOffset_negative text negative
  case each =>
    intro offset
    refine ⟨ofOffset_eq_searched text offset,line_pos text offset,column_pos_iff text offset,?_⟩
    intro rule
    exact ofPosition_error_iff rule text offset

theorem ofOffset_embedding_feed :
    (ofOffset "ab\n\n c".toList 2).Locates ("ab\n\n c".toList.splitOn '\n') 2 ∧
    (ofOffset "ab\n\n c".toList 2).Before (ofOffset "ab\n\n c".toList 9) ∧
    (ofOffset "ab\n\n c".toList 9).line = 3 ∧
    (ofOffset "ab\n\n c".toList (-8)).snippet = "ab".toList := by
  obtain ⟨inside,ordered,beyond,negative,-⟩ := ofOffset_embedding "ab\n\n c".toList
  refine ⟨inside 2 (by decide),ordered 2 9 (by decide),?_,?_⟩
  · apply (beyond 9 (by decide)).1.trans
    decide
  · apply (negative (-8) (by decide)).2.trans
    decide

end Position
end SchemaLint
