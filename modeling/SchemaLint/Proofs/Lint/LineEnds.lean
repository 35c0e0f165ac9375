import SchemaLint.Proofs.Lint.Insertion

/-! Line ends of two characters. A carriage return in front of a line feed is a gap at the end of its
line, which a snippet does not show, so a text is found to hold what it holds without it.
-/
namespace SchemaLint
open Text

namespace Text

def ReturnsFed (text : Text) : Prop :=
  ∀ offset < text.length, text[offset]? = some '\r' → text[offset + 1]? = some '\n'

instance (text : Text) : Decidable text.ReturnsFed :=
  Nat.decidableBallLT _ _

theorem ReturnsFed.tail {c : Char} {text : Text} (fed : ReturnsFed (c :: text)) :
    text.ReturnsFed := by
  intro offset inside found
  have next := fed (offset + 1) (by simpa using inside)
  rw [List.getElem?_cons_succ,List.getElem?_cons_succ] at next
  exact next found

theorem ReturnsFed.head {text : Text} (fed : ReturnsFed ('\r' :: text)) :
    ∃ rest, text = '\n' :: rest := by
  have next := fed 0 (by simp) rfl
  rw [Nat.zero_add,List.getElem?_cons_succ] at next
  cases text with
  | nil => cases next
  | cons c rest =>
    rw [List.getElem?_cons_zero,Option.some_inj] at next
    exact ⟨rest,by rw [next]⟩

theorem trimBy_concat {drop : Char → Bool} {c : Char} (dropped : drop c = true) (text : Text) :
    trimBy drop (text ++ [c]) = trimBy drop text := by
  unfold trimBy
  rw [List.dropWhile_append]
  split
  · rename_i empty
    rw [List.isEmpty_iff] at empty
    simp [empty,dropped]
  · simp [dropped]

theorem trim_return (line text : Text) :
    trim (line ++ lineBehind (text ++ ['\r'])) = trim (line ++ lineBehind text) := by
  unfold lineBehind
  rw [List.takeWhile_append]
  split
  · rename_i whole
    have kept : ['\r'].takeWhile (· ≠ '\n') = ['\r'] := rfl
    rw [(List.takeWhile_prefix _).eq_of_length whole,kept,← List.append_assoc]
    exact trimBy_concat (by decide) _
  · rfl

end Text

/-- A carriage return at the end of a line moves what stands behind it, but not to another line or
column. -/
theorem Rule.finding_return (rule : Rule) (front back : Text) {offset : Nat}
    (apart : offset ≠ front.length) :
    rule.finding (front ++ '\r' :: '\n' :: back) (widened front.length 1 offset) =
      rule.finding (front ++ '\n' :: back) offset := by
  unfold widened
  split
  · rename_i inside
    have whole (rest : Text) : (front ++ rest).take offset = front.take offset :=
      List.take_append_of_le_length inside.le
    have parts (rest : Text) : (front ++ rest).drop offset = front.drop offset ++ rest :=
      List.drop_append_of_le_length inside.le
    have snippet := trim_return (lineBefore (front.take offset)) (front.drop offset)
    rw [← lineBehind_append_feed (front.drop offset) back,
      ← lineBehind_append_feed (front.drop offset ++ ['\r']) back,List.append_assoc] at snippet
    unfold finding
    simp only [whole,parts,Diagnostic.mk.injEq,true_and]
    exact snippet
  · rename_i behind
    obtain ⟨place,rfl⟩ := Nat.exists_eq_add_of_le (by omega : front.length + 1 ≤ offset)
    have takes : (front ++ '\n' :: back).take (front.length + 1 + place) =
        front ++ '\n' :: back.take place := by
      rw [Nat.add_assoc,List.take_length_add_append,Nat.add_comm 1,List.take_succ_cons]
    have takesMore : (front ++ '\r' :: '\n' :: back).take (front.length + 1 + place + 1) =
        (front ++ ['\r']) ++ '\n' :: back.take place := by
      rw [Nat.add_assoc,Nat.add_assoc,List.take_length_add_append,Nat.add_comm 1,
        List.take_succ_cons,List.take_succ_cons,List.append_assoc,List.singleton_append]
    have drops : (front ++ '\n' :: back).drop (front.length + 1 + place) = back.drop place := by
      rw [Nat.add_assoc,List.drop_length_add_append,Nat.add_comm 1,List.drop_succ_cons]
    have dropsMore : (front ++ '\r' :: '\n' :: back).drop (front.length + 1 + place + 1) =
        back.drop place := by
      rw [Nat.add_assoc,Nat.add_assoc,List.drop_length_add_append,Nat.add_comm 1,
        List.drop_succ_cons,List.drop_succ_cons]
    have bound := length_lineBefore_le (back.take place)
    have short := List.length_take_le place back
    unfold finding
    simp only [takes,takesMore,drops,dropsMore,lineBefore_feed,Diagnostic.mk.injEq,true_and]
    refine ⟨by simp,?_,trivial⟩
    simp only [List.length_append,List.length_cons,List.length_nil]
    omega

namespace Comment

theorem neutralize_return (front back : Text) :
    ∃ written, isGap written = true ∧ Parts (neutralize front)
        (blankFrom (after .code front) ('\n' :: back)) ∧
      neutralize (front ++ '\n' :: back) =
        neutralize front ++ blankFrom (after .code front) ('\n' :: back) ∧
      neutralize (front ++ '\r' :: '\n' :: back) =
        neutralize front ++ [written] ++ blankFrom (after .code front) ('\n' :: back) := by
  obtain ⟨written,gap,shape⟩ := blankFrom_gap (c := '\r') rfl (after .code front)
  obtain ⟨feed,feedGap,feedShape⟩ := blankFrom_gap (c := '\n') rfl (after .code front)
  have same : after (after .code front) ['\r'] = after .code front := by
    cases after .code front <;> rfl
  refine ⟨written,gap,.inr ?_,?_,?_⟩
  · rw [feedShape,stops_cons]
    exact isWord_eq_false_of_isGap feedGap
  · rw [neutralize_eq,neutralize_eq front,blankFrom_append .code front _ (clear_gap rfl _ back)]
  · rw [neutralize_eq,neutralize_eq front,
      blankFrom_append .code front _ (clear_gap rfl _ ('\n' :: back)),shape,same]
    simp

end Comment

theorem mem_reports {text : Text} {rule : Rule} {offset : Nat}
    (reported : (rule,offset) ∈ reports text) : rule ∈ Rule.all ∧ rule.ReportsAt text offset := by
  unfold reports at reported
  rw [List.mem_mergeSort,List.mem_flatMap] at reported
  obtain ⟨other,member,found⟩ := reported
  obtain ⟨place,starts,equal⟩ := List.mem_map.mp found
  cases equal
  exact ⟨member,(Rule.mem_offsets member _ _).mp starts⟩

/-- A carriage return in front of a line feed shows in no finding. -/
theorem lint_return (front back : Text) :
    lint (front ++ '\r' :: '\n' :: back) = lint (front ++ '\n' :: back) := by
  obtain ⟨written,gap,parts,plain,returned⟩ := Comment.neutralize_return front back
  have gaps : ∀ c ∈ [written], isGap c = true := by simpa using gap
  have relocates := relocates_widened parts (List.cons_ne_nil _ _) gaps
  rw [← plain,← returned,Comment.length_neutralize] at relocates
  rw [lint_eq_reports,lint_eq_reports,reports_relocated relocates,List.map_map]
  refine List.map_congr_left fun (rule,offset) reported => ?_
  obtain ⟨-,reports⟩ := mem_reports reported
  refine rule.finding_return front back ?_
  rintro rfl
  -- The line feed is no part of a word, so nothing starts at it.
  obtain ⟨word,-,spells⟩ := Pattern.StartsAt.spells reports
  obtain ⟨feed,feedGap,shape⟩ := Comment.neutralize_gap (c := '\n') rfl front
  have none : wordAt? (Comment.neutralize front ++ [feed] ++
      Comment.blankFrom (Comment.after .code (front ++ ['\n'])) back)
      (Comment.neutralize front).length = none :=
    wordAt?_inserted _ (by simpa using feedGap) le_rfl (by simp)
  rw [Phrase.Spells,shape back,← List.singleton_append,← List.append_assoc,
    ← Comment.length_neutralize front,none] at spells
  cases spells

theorem lint_universalNewlinesFrom (front : Text) {text : Text} (fed : text.ReturnsFed) :
    lint (front ++ universalNewlinesFrom text) = lint (front ++ text) := by
  fun_induction universalNewlinesFrom text generalizing front with
  | case1 => rfl
  | case2 rest ih =>
    have behind := ih (front ++ ['\n']) fed.tail.tail
    rw [List.append_assoc,List.append_assoc,List.singleton_append,List.singleton_append] at behind
    rw [behind,lint_return]
  | case3 c rest other ih =>
    have inLine : c ≠ '\r' := by
      rintro rfl
      obtain ⟨behind,rfl⟩ := fed.head
      exact other behind rfl rfl
    have behind := ih (front ++ [c]) fed.tail
    rw [List.append_assoc,List.append_assoc,List.singleton_append,List.singleton_append] at behind
    rw [if_neg inLine,behind]

theorem lintFile_eq {contents : Bytes} (fed : ReturnsFed (Utf8.decode contents)) :
    lintFile contents = lint (Utf8.decode contents) := by
  unfold lintFile
  rw [universalNewlines_eq]
  exact lint_universalNewlinesFrom [] fed

end SchemaLint
