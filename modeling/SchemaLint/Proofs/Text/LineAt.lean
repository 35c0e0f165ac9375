import SchemaLint.Text.Lines
import SchemaLint.Proofs.Text.Run
import Mathlib.Data.List.DropRight

/-! The line that an offset lies in, read off the text in front of the offset and behind it.
-/
namespace SchemaLint.Text

def lineBefore (text : Text) : Text :=
  text.rtakeWhile (· ≠ '\n')

def lineBehind (text : Text) : Text :=
  text.takeWhile (· ≠ '\n')

def Line.across (before behind : Text) : Line where
  number := before.count '\n' + 1
  start := before.length - (lineBefore before).length
  stop := before.length + (lineBehind behind).length
  content := lineBefore before ++ lineBehind behind

@[simp] theorem lineBefore_nil : lineBefore [] = [] := rfl

@[simp] theorem lineBehind_nil : lineBehind [] = [] := rfl

@[simp] theorem lineBehind_feed (text : Text) : lineBehind ('\n' :: text) = [] := by
  simp [lineBehind]

theorem lineBehind_cons {c : Char} (text : Text) (inLine : c ≠ '\n') :
    lineBehind (c :: text) = c :: lineBehind text := by
  simp [lineBehind,inLine]

theorem lineBefore_concat {c : Char} (text : Text) (inLine : c ≠ '\n') :
    lineBefore (text ++ [c]) = lineBefore text ++ [c] :=
  List.rtakeWhile_concat_pos _ _ _ (by simpa using inLine)

theorem lineBefore_concat_feed (text : Text) : lineBefore (text ++ ['\n']) = [] :=
  List.rtakeWhile_concat_neg _ _ _ (by simp)

/-- What stands in front of a line feed is not in the lines behind it. -/
theorem lineBefore_feed (before text : Text) :
    lineBefore (before ++ '\n' :: text) = lineBefore text := by
  induction text using List.reverseRecOn with
  | nil => exact lineBefore_concat_feed before
  | append_singleton text c ih =>
    rw [← List.cons_append,← List.append_assoc]
    by_cases feed : c = '\n'
    · subst feed
      rw [lineBefore_concat_feed,lineBefore_concat_feed]
    · rw [lineBefore_concat _ feed,lineBefore_concat _ feed,ih]

theorem lineBefore_append {text : Text} (before : Text) (inLine : '\n' ∉ text) :
    lineBefore (before ++ text) = lineBefore before ++ text := by
  induction text using List.reverseRecOn with
  | nil => simp
  | append_singleton text c ih =>
    rw [List.mem_append,not_or,List.mem_singleton] at inLine
    rw [← List.append_assoc,lineBefore_concat _ (Ne.symm inLine.2),ih inLine.1,List.append_assoc]

theorem lineBehind_append_feed (text behind : Text) :
    lineBehind (text ++ '\n' :: behind) = lineBehind text := by
  induction text with
  | nil => simp
  | cons c text ih =>
    by_cases feed : c = '\n'
    · simp [feed]
    · rw [List.cons_append,lineBehind_cons _ feed,lineBehind_cons _ feed,ih]

theorem length_lineBefore_le (text : Text) : (lineBefore text).length ≤ text.length :=
  (List.rtakeWhile_suffix _ _).length_le

theorem Line.across_concat {c : Char} (before behind : Text) (inLine : c ≠ '\n') :
    Line.across (before ++ [c]) behind = Line.across before (c :: behind) := by
  have bound := length_lineBefore_le before
  unfold Line.across
  rw [lineBefore_concat _ inLine,lineBehind_cons _ inLine,List.count_append]
  simp [inLine,Nat.add_assoc,Nat.add_comm 1]

def linesBehind (before text : Text) : List Line :=
  linesFrom [] (before.count '\n' + 1) (before.length - (lineBefore before).length) before.length
    (lineBefore before).reverse text

theorem linesFrom_done (done : List Line) (number start pos : Nat) (read text : Text) :
    linesFrom done number start pos read text =
      done.reverse ++ linesFrom [] number start pos read text := by
  induction text generalizing done number start pos read with
  | nil => simp [linesFrom]
  | cons c text ih =>
    rw [linesFrom,linesFrom]
    split
    · rw [ih,ih [_]]
      simp
    · rw [ih]

theorem linesBehind_nil (before : Text) : linesBehind before [] = [Line.across before []] := by
  simp [linesBehind,linesFrom,Line.across]

theorem linesBehind_feed (before text : Text) :
    linesBehind before ('\n' :: text) =
      Line.across before ('\n' :: text) :: linesBehind (before ++ ['\n']) text := by
  unfold linesBehind
  rw [linesFrom,if_pos rfl,linesFrom_done,lineBefore_concat_feed]
  simp [Line.across]

theorem linesBehind_cons {c : Char} (before text : Text) (inLine : c ≠ '\n') :
    linesBehind before (c :: text) = linesBehind (before ++ [c]) text := by
  unfold linesBehind
  rw [linesFrom,if_neg inLine,lineBefore_concat _ inLine]
  simp [inLine]

theorem linesBehind_ne_nil (before text : Text) : linesBehind before text ≠ [] := by
  induction text generalizing before with
  | nil => simp [linesBehind_nil]
  | cons c text ih =>
    by_cases feed : c = '\n'
    · subst feed
      simp [linesBehind_feed]
    · rw [linesBehind_cons _ _ feed]
      exact ih _

theorem lineAt_first (before text : Text) {offset : Nat} (bound : offset ≤ before.length) :
    lineAt (linesBehind before text) offset = Line.across before text := by
  induction text generalizing before with
  | nil =>
    rw [linesBehind_nil]
    rfl
  | cons c text ih =>
    by_cases feed : c = '\n'
    · subst feed
      obtain ⟨next,more,shape⟩ := List.exists_cons_of_ne_nil (linesBehind_ne_nil (before ++ ['\n']) text)
      rw [linesBehind_feed,shape,lineAt,if_pos]
      simpa [Line.across] using bound
    · rw [linesBehind_cons _ _ feed,ih _ (by rw [List.length_append]; omega),
        Line.across_concat _ _ feed]

theorem lineAt_linesBehind (before text : Text) (offset : Nat) :
    lineAt (linesBehind before text) (before.length + offset) =
      Line.across (before ++ text.take offset) (text.drop offset) := by
  induction text generalizing before offset with
  | nil =>
    rw [linesBehind_nil]
    simp [lineAt]
  | cons c text ih =>
    cases offset with
    | zero =>
      rw [lineAt_first before _ (by omega)]
      simp
    | succ offset =>
      have shift : before.length + (offset + 1) = (before ++ [c]).length + offset := by
        rw [List.length_append,List.length_singleton]
        omega
      have parts : before ++ (c :: text).take (offset + 1) = before ++ [c] ++ text.take offset := by
        simp
      rw [parts,List.drop_succ_cons,shift]
      by_cases feed : c = '\n'
      · subst feed
        obtain ⟨next,more,shape⟩ := List.exists_cons_of_ne_nil
          (linesBehind_ne_nil (before ++ ['\n']) text)
        rw [← ih,linesBehind_feed,shape,lineAt,if_neg]
        simp [Line.across]
        omega
      · rw [linesBehind_cons _ _ feed,ih]

theorem lineAt_lines (text : Text) (offset : Nat) :
    lineAt (lines text) offset = Line.across (text.take offset) (text.drop offset) := by
  have found := lineAt_linesBehind [] text offset
  simpa [linesBehind,lines] using found

end SchemaLint.Text
