import SchemaLint.Proofs.Rule.Relocation

/-! Gaps that are put into a text where they part no word. Words stay what they are, two words that gaps
alone part are still parted by gaps alone, and so every phrase stands where it stood before.
-/
namespace SchemaLint
open Text Phrase

namespace Text

/-- Where an offset goes when `width` characters are put in at `cut`. -/
def widened (cut width offset : Nat) : Nat :=
  if offset < cut then offset else offset + width

theorem widened_strictMono (cut width : Nat) : StrictMono (widened cut width) := by
  intro first second before
  unfold widened
  split <;> split <;> omega

theorem widened_cases (cut width place : Nat) :
    (∃ offset, place = widened cut width offset) ∨ cut ≤ place ∧ place < cut + width := by
  rcases Nat.lt_or_ge place cut with before | after
  · exact .inl ⟨place,by rw [widened,if_pos before]⟩
  · rcases Nat.lt_or_ge place (cut + width) with inside | behind
    · exact .inr ⟨after,inside⟩
    · refine .inl ⟨place - width,?_⟩
      rw [widened,if_neg (by omega)]
      omega

variable {front gap back : Text}

theorem getElem?_widened (front gap back : Text) (offset : Nat) :
    (front ++ gap ++ back)[widened front.length gap.length offset]? = (front ++ back)[offset]? := by
  unfold widened
  split
  · rename_i before
    rw [List.append_assoc,List.getElem?_append_left before,List.getElem?_append_left before]
  · rename_i behind
    rw [List.getElem?_append_right (by rw [List.length_append]; omega),
      List.getElem?_append_right (by omega),List.length_append]
    congr 1
    omega

def GapsBetween (text : Text) (start stop : Nat) : Prop :=
  ∀ offset, start ≤ offset → offset < stop → ∀ c ∈ text[offset]?, isGap c = true

theorem gapsBetween_iff {text : Text} {start stop : Nat} :
    (∀ c ∈ text.extract start stop, isGap c = true) ↔ GapsBetween text start stop := by
  rw [List.extract_eq_take_drop]
  constructor
  · intro gaps offset behind before c found
    refine gaps c (List.mem_of_getElem? (i := offset - start) ?_)
    rw [List.getElem?_take_of_lt (by omega),List.getElem?_drop,Nat.add_sub_cancel' behind]
    exact found
  · intro gaps c member
    obtain ⟨i,found⟩ := List.mem_iff_getElem?.mp member
    rw [List.getElem?_take] at found
    split at found
    · rw [List.getElem?_drop] at found
      exact gaps (start + i) (by omega) (by omega) c found
    · cases found

/-- No word lies across a cut of a text. -/
def Parts (front back : Text) : Prop :=
  endsInWord front = false ∨ Stops isWord back

/-- A word that starts in front of the cut ends there, and what is put in does not go on with it. -/
theorem word_within (parts : Parts front back) {start : Nat} {word rest : Text}
    (inside : start < front.length) (letters : ∀ c ∈ word, isWord c = true)
    (shape : (front ++ back).drop start = word ++ rest) : start + word.length ≤ front.length := by
  rw [List.drop_append_of_le_length inside.le] at shape
  rcases List.append_eq_append_iff.mp shape with ⟨more,rfl,behind⟩ | ⟨more,inFront,-⟩
  · cases more with
    | nil =>
      simp only [List.append_nil,List.length_drop]
      omega
    | cons c more =>
      have nonempty : front.drop start ≠ [] := by
        intro empty
        rw [List.drop_eq_nil_iff] at empty
        omega
      have ends := endsInWord_of_letters (front.take start) nonempty
        fun d member => letters d (List.mem_append_left _ member)
      rw [List.take_append_drop] at ends
      rcases parts with apart | stop
      · rw [apart] at ends
        cases ends
      · rw [behind,List.cons_append,stops_cons,letters c (by simp)] at stop
        cases stop
  · have size := congrArg List.length inFront
    rw [List.length_drop,List.length_append] at size
    omega

theorem takeWhile_widened (parts : Parts front back) (apart : gap ≠ [])
    (gaps : ∀ c ∈ gap, isGap c = true) {start : Nat} (inside : start < front.length) :
    (front.drop start ++ (gap ++ back)).takeWhile isWord =
      (front.drop start ++ back).takeWhile isWord := by
  obtain ⟨run,rest,shape,letters,stop⟩ := exists_run isWord (front.drop start)
  rw [shape,List.append_assoc,List.append_assoc]
  cases rest with
  | cons c rest =>
    have stops (behind : Text) : Stops isWord (c :: rest ++ behind) :=
      stops_cons.mpr (stops_cons.mp stop)
    rw [takeWhile_run letters (stops _),takeWhile_run letters (stops _)]
  | nil =>
    -- The word reaches up to the cut, so what follows the cut goes on with no word.
    rw [List.append_nil] at shape
    have nonempty : run ≠ [] := by
      rintro rfl
      rw [List.drop_eq_nil_iff] at shape
      omega
    have stopBehind : Stops isWord back := by
      refine parts.resolve_left fun ends => ?_
      rw [← List.take_append_drop start front,shape,endsInWord_of_letters _ nonempty letters] at ends
      cases ends
    rw [List.nil_append,List.nil_append,takeWhile_run letters (stops_gap back apart gaps),
      takeWhile_run letters stopBehind]

theorem wordAt?_widened (parts : Parts front back) (apart : gap ≠ [])
    (gaps : ∀ c ∈ gap, isGap c = true) (offset : Nat) :
    wordAt? (front ++ gap ++ back) (widened front.length gap.length offset) =
      wordAt? (front ++ back) offset := by
  unfold widened
  split
  · rename_i inside
    obtain ⟨c,rest,shape⟩ := List.exists_cons_of_ne_nil (l := front.drop offset) (by
      rw [Ne,List.drop_eq_nil_iff]
      omega)
    have run := takeWhile_widened parts apart gaps inside
    rw [shape] at run
    unfold wordAt?
    rw [List.append_assoc,List.take_append_of_le_length inside.le,
      List.take_append_of_le_length inside.le,List.drop_append_of_le_length inside.le,
      List.drop_append_of_le_length inside.le,shape,run]
    rfl
  · rename_i behind
    obtain ⟨place,rfl⟩ := Nat.exists_eq_add_of_le (Nat.le_of_not_lt behind)
    have noWord : endsInWord (front ++ gap) = false := not_endsInWord_gap front apart gaps
    have shift : front.length + place + gap.length = (front ++ gap).length + place := by
      rw [List.length_append]
      omega
    rw [shift,wordAt?_append _ _ _ (.inl noWord)]
    rcases parts with ends | stop
    · rw [wordAt?_append _ _ _ (.inl ends)]
    · cases place with
      | succ place => rw [wordAt?_append _ _ _ (.inr (Nat.succ_pos _))]
      | zero =>
        have starts := startsInWord_eq_false_iff.mpr stop
        simp [wordAt?,starts]

theorem wordAt?_inserted (back : Text) (gaps : ∀ c ∈ gap, isGap c = true) {place : Nat}
    (behind : front.length ≤ place) (before : place < front.length + gap.length) :
    wordAt? (front ++ gap ++ back) place = none := by
  obtain ⟨inside,rfl⟩ := Nat.exists_eq_add_of_le behind
  have starts : startsInWord ((gap ++ back).drop inside) = false := by
    rw [List.drop_append_of_le_length (by omega),startsInWord_eq_false_iff]
    refine stops_gap back ?_ fun c member => gaps c (List.mem_of_mem_drop member)
    rw [Ne,List.drop_eq_nil_iff]
    omega
  unfold wordAt?
  rw [List.append_assoc,List.drop_length_add_append,starts]
  simp

end Text

namespace Phrase
variable {front gap back : Text}

theorem gapsBetween_widened (gaps : ∀ c ∈ gap, isGap c = true) {start later size : Nat}
    (within : start < front.length → start + size ≤ front.length) :
    GapsBetween (front ++ gap ++ back) (widened front.length gap.length start + size)
        (widened front.length gap.length later) ↔
      GapsBetween (front ++ back) (start + size) later := by
  constructor
  · intro between offset behind before
    rw [← getElem?_widened front gap back offset]
    refine between _ ?_ ((widened_strictMono _ _) before)
    unfold widened
    split <;> split <;> omega
  · intro between place behind before
    rcases widened_cases front.length gap.length place with ⟨offset,rfl⟩ | ⟨first,last⟩
    · rw [getElem?_widened]
      refine between offset ?_ ((widened_strictMono _ _).lt_iff_lt.mp before)
      unfold widened at behind
      split at behind <;> split at behind <;> omega
    · intro c found
      rw [List.append_assoc,List.getElem?_append_right first,
        List.getElem?_append_left (by omega)] at found
      exact gaps c (List.mem_of_getElem? found)

theorem Spells.within (parts : Parts front back) {start : Nat} {word : Text}
    (spells : Spells (front ++ back) start word) (inside : start < front.length) :
    start + word.length ≤ front.length := by
  obtain ⟨spelt,found,rfl⟩ := Option.map_eq_some_iff.mp spells
  obtain ⟨-,-,letters,rest,shape,-⟩ := wordAt?_eq_some_iff.mp found
  rw [length_upper]
  exact word_within parts inside letters shape

theorem StandsAt.exists_widened (gaps : ∀ c ∈ gap, isGap c = true) {phrase : Phrase} {place : Nat}
    (stands : phrase.StandsAt (front ++ gap ++ back) place) :
    ∃ offset, place = widened front.length gap.length offset := by
  refine (widened_cases front.length gap.length place).resolve_right ?_
  rintro ⟨behind,before⟩
  cases phrase with
  | nil => cases stands
  | cons word words =>
    have spells := spells_of_standsAt stands
    rw [Spells,wordAt?_inserted back gaps behind before] at spells
    cases spells

theorem standsAt_widened (parts : Parts front back) (apart : gap ≠ [])
    (gaps : ∀ c ∈ gap, isGap c = true) (phrase : Phrase) (offset : Nat) :
    phrase.StandsAt (front ++ gap ++ back) (widened front.length gap.length offset) ↔
      phrase.StandsAt (front ++ back) offset := by
  have words (word : Text) (start : Nat) :
      Spells (front ++ gap ++ back) (widened front.length gap.length start) word ↔
        Spells (front ++ back) start word := by
    rw [Spells,wordAt?_widened parts apart gaps,Spells]
  induction phrase generalizing offset with
  | nil => exact Iff.rfl
  | cons word rest ih =>
    cases rest with
    | nil => exact words word offset
    | cons next rest =>
      rw [StandsAt,StandsAt,words]
      refine and_congr_right fun spells => ?_
      have within := spells.within parts
      constructor
      · rintro ⟨place,forward,between,stands⟩
        obtain ⟨later,rfl⟩ := stands.exists_widened gaps
        refine ⟨later,?_,?_,(ih later).mp stands⟩
        · unfold widened at forward
          split at forward <;> split at forward <;> omega
        · rw [gapsBetween_iff] at between ⊢
          exact (gapsBetween_widened gaps within).mp between
      · rintro ⟨later,forward,between,stands⟩
        refine ⟨widened front.length gap.length later,?_,?_,(ih later).mpr stands⟩
        · unfold widened
          split <;> split <;> omega
        · rw [gapsBetween_iff] at between ⊢
          exact (gapsBetween_widened gaps within).mpr between

end Phrase

theorem relocates_widened {front gap back : Text} (parts : Parts front back) (apart : gap ≠ [])
    (gaps : ∀ c ∈ gap, isGap c = true) :
    Relocates (widened front.length gap.length) (front ++ back) (front ++ gap ++ back) where
  mono := widened_strictMono _ _
  stands := fun phrase _ => standsAt_widened parts apart gaps phrase
  onto := fun _ _ _ stands => stands.exists_widened gaps

end SchemaLint
