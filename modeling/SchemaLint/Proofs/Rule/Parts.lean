import SchemaLint.Proofs.Rule.Phrases

/-! Phrases in a part of a text. A phrase that ends within a part is found there as in the whole
text, as long as the cut at the end of the part leaves no word in two.
-/
namespace SchemaLint.Phrase
open Text

theorem Begins.take {phrase : Phrase} {text : Text} {length : Nat} (begins : Begins phrase text length)
    {stop : Nat} (bound : length ≤ stop) : Begins phrase (text.take stop) length := by
  induction begins generalizing stop with
  | @last word spelt rest spells behind =>
    rw [← spells,length_upper] at bound
    rw [List.take_append,List.take_of_length_le bound]
    exact .last spells (stops_take behind _)
  | @cons word next words spelt gap rest n spells apart gaps behind tail ih =>
    rw [← spells,length_upper] at bound
    rw [List.take_append,List.take_of_length_le (by omega),List.take_append,
      List.take_of_length_le (l := gap) (by omega)]
    exact .cons spells apart gaps (stops_take behind _) (ih (by omega))

theorem Begins.append {phrase : Phrase} {text behind : Text} {length : Nat}
    (keywords : Keywords phrase) (begins : Begins phrase text length) (stop : Stops isWord behind) :
    Begins phrase (text ++ behind) length := by
  induction begins with
  | last spells stopWord =>
    rw [List.append_assoc]
    exact .last spells (stops_append stopWord stop)
  | @cons word next words spelt gap rest n spells apart gaps stopGap tail ih =>
    obtain ⟨c,letters,rfl,letter⟩ := tail.letter keywords.tail
    rw [List.append_assoc,List.append_assoc]
    exact .cons spells apart gaps (stops_cons.mpr (isGap_eq_false_of_isWord letter))
      (ih keywords.tail)

theorem Begins.endsInWord {phrase : Phrase} {text : Text} {length : Nat}
    (keywords : Keywords phrase) (begins : Begins phrase text length) :
    endsInWord (text.take length) = true := by
  induction begins with
  | @last word spelt rest spells stop =>
    obtain ⟨nonempty,capitals⟩ := keywords.2 word (by simp)
    have some : spelt ≠ [] := by
      rintro rfl
      exact nonempty spells.symm
    rw [← spells,length_upper,List.take_left]
    exact endsInWord_of_letters [] some (letters_of_spells capitals spells)
  | @cons word next words spelt gap rest n spells apart gaps stop tail ih =>
    have positive := tail.length_pos keywords.tail
    have some : rest.take n ≠ [] := by
      obtain ⟨c,letters,rfl,-⟩ := tail.letter keywords.tail
      cases n with
      | zero => omega
      | succ n => simp
    rw [← spells,length_upper,Nat.add_assoc,List.take_length_add_append,
      List.take_length_add_append,← List.append_assoc,endsInWord_append _ some]
    exact ih keywords.tail

theorem endsInWord_of_matchAt? {phrase : Phrase} {text : Text} {start length : Nat}
    (keywords : Keywords phrase) (found : phrase.matchAt? text start = some length) :
    Text.endsInWord (text.take (start + length)) = true := by
  obtain ⟨-,begins⟩ := matchAt?_eq_some_iff.mp found
  have ends := begins.endsInWord keywords
  have nonempty : (text.drop start).take length ≠ [] := by
    intro empty
    rw [empty] at ends
    cases ends
  rw [List.take_add,endsInWord_append _ nonempty]
  exact ends

theorem Begins.stops {phrase : Phrase} {text : Text} {length : Nat}
    (begins : Begins phrase text length) : Stops isWord (text.drop length) := by
  induction begins with
  | last spells stop =>
    rw [← spells,length_upper,List.drop_left]
    exact stop
  | cons spells apart gaps stop tail ih =>
    rw [← spells,length_upper,Nat.add_assoc,List.drop_length_add_append,
      List.drop_length_add_append]
    exact ih

theorem stops_of_matchAt? {phrase : Phrase} {text : Text} {start length : Nat}
    (found : phrase.matchAt? text start = some length) :
    Stops isWord (text.drop (start + length)) := by
  obtain ⟨-,begins⟩ := matchAt?_eq_some_iff.mp found
  rw [← List.drop_drop]
  exact begins.stops

theorem Begins.chars {phrase : Phrase} {text : Text} {length : Nat} (keywords : Keywords phrase)
    (begins : Begins phrase text length) :
    ∀ c ∈ text.take length, isWord c = true ∨ isGap c = true := by
  induction begins with
  | @last word spelt rest spells stop =>
    rw [← spells,length_upper,List.take_left]
    intro c member
    exact .inl (letters_of_spells (keywords.2 word (by simp)).2 spells c member)
  | @cons word next words spelt gap rest n spells apart gaps stop tail ih =>
    rw [← spells,length_upper,Nat.add_assoc,List.take_length_add_append,
      List.take_length_add_append]
    intro c member
    rcases List.mem_append.mp member with inWord | member
    · exact .inl (letters_of_spells (keywords.2 word (by simp)).2 spells c inWord)
    · rcases List.mem_append.mp member with inGap | member
      · exact .inr (gaps c inGap)
      · exact ih keywords.tail c member

/-- A text may be cut behind a word without a change to the phrases in front of the cut. -/
theorem matchAt?_take_iff {phrase : Phrase} {text : Text} {stop start length : Nat}
    (keywords : Keywords phrase) (whole : Stops isWord (text.drop stop)) :
    phrase.matchAt? (text.take stop) start = some length ↔
      phrase.matchAt? text start = some length ∧ start + length ≤ stop := by
  constructor
  · intro found
    obtain ⟨bound,positive⟩ := start_lt_of_matchAt? keywords found
    rw [List.length_take] at bound
    obtain ⟨apart,begins⟩ := matchAt?_eq_some_iff.mp found
    have extended := begins.append keywords whole
    rw [List.take_take,Nat.min_eq_left (by omega)] at apart
    rw [← List.drop_append_of_le_length (by rw [List.length_take]; omega),
      List.take_append_drop] at extended
    exact ⟨matchAt?_eq_some_iff.mpr ⟨apart,extended⟩,by omega⟩
  · rintro ⟨found,bound⟩
    obtain ⟨apart,begins⟩ := matchAt?_eq_some_iff.mp found
    refine matchAt?_eq_some_iff.mpr ⟨?_,?_⟩
    · rw [List.take_take,Nat.min_eq_left (by omega)]
      exact apart
    · rw [List.drop_take]
      exact begins.take (by omega)

/-- Behind what ends in no word, phrases are found as in the rest alone. -/
theorem matchAt?_append (phrase : Phrase) {before : Text} (text : Text) (start : Nat)
    (apart : endsInWord before = false) :
    phrase.matchAt? (before ++ text) (before.length + start) = phrase.matchAt? text start := by
  have same : Text.endsInWord (before ++ text.take start) = Text.endsInWord (text.take start) := by
    by_cases empty : text.take start = []
    · rw [empty,List.append_nil,apart]
      rfl
    · exact endsInWord_append before empty
  unfold matchAt?
  rw [List.take_length_add_append,List.drop_length_add_append,same]

end SchemaLint.Phrase
