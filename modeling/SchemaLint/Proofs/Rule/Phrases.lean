import SchemaLint.Proofs.Rule.Words

/-! Phrases as words that are joined by gaps. A search finds a phrase at an offset exactly when its
words stand there, and the words inside what it finds are those of the phrase.
-/
namespace SchemaLint.Phrase
open Text

def Spells (text : Text) (start : Nat) (word : Text) : Prop :=
  (wordAt? text start).map upper = some word

/-- Whether words that spell a phrase start at an offset, one behind the other with nothing but gaps
between them. -/
def StandsAt (text : Text) : Phrase → Nat → Prop
  | [], _ => False
  | [word], start => Spells text start word
  | word :: next :: words, start => Spells text start word ∧
      ∃ later, start + word.length ≤ later ∧
        (∀ c ∈ text.extract (start + word.length) later, isGap c = true) ∧
        StandsAt text (next :: words) later

/-- A phrase has words, and words have letters in upper case. -/
def Keywords (phrase : Phrase) : Prop :=
  phrase ≠ [] ∧ ∀ word ∈ phrase, word ≠ [] ∧ ∀ c ∈ word, c.isUpper = true

def matchAt? (phrase : Phrase) (text : Text) (start : Nat) : Option Nat :=
  if endsInWord (text.take start) then none else phrase.length? (text.drop start)

inductive Begins : Phrase → Text → Nat → Prop
  | last {word spelt rest} (spells : upper spelt = word) (stop : Stops isWord rest) :
      Begins [word] (spelt ++ rest) word.length
  | cons {word next words spelt gap rest length} (spells : upper spelt = word) (apart : gap ≠ [])
      (gaps : ∀ c ∈ gap, isGap c = true) (stop : Stops isGap rest)
      (behind : Begins (next :: words) rest length) :
      Begins (word :: next :: words) (spelt ++ (gap ++ rest)) (word.length + gap.length + length)

theorem afterWord?_eq_some_iff {word text rest : Text} :
    afterWord? word text = some rest ↔ ∃ spelt, text = spelt ++ rest ∧ upper spelt = word := by
  induction word generalizing text with
  | nil => simp [afterWord?,upper]
  | cons k word ih =>
    cases text with
    | nil => simp [afterWord?,upper]
    | cons c text =>
      rw [afterWord?]
      constructor
      · intro found
        split at found
        · rename_i same
          obtain ⟨spelt,rfl,rfl⟩ := ih.mp found
          exact ⟨c :: spelt,rfl,by simp [upper,same]⟩
        · cases found
      · rintro ⟨spelt,shape,spells⟩
        cases spelt with
        | nil => cases spells
        | cons d spelt =>
          obtain ⟨rfl,rfl⟩ := List.cons.inj shape
          obtain ⟨same,spells⟩ := List.cons.inj spells
          rw [if_pos same]
          exact ih.mpr ⟨spelt,rfl,spells⟩

theorem length?_last_iff {word text : Text} {length : Nat} :
    length? [word] text = some length ↔ Begins [word] text length := by
  rw [length?]
  constructor
  · intro found
    split at found
    · cases found
    · rename_i rest after
      obtain ⟨spelt,rfl,spells⟩ := afterWord?_eq_some_iff.mp after
      split at found
      · cases found
      · rename_i stop
        cases found
        exact .last spells (startsInWord_eq_false_iff.mp (by simpa using stop))
  · rintro (⟨spells,stop⟩ | _)
    rename_i spelt rest
    rw [afterWord?_eq_some_iff.mpr ⟨spelt,rfl,spells⟩]
    simp [startsInWord_eq_false_iff.mpr stop]

theorem length?_cons_iff {word next text : Text} {words : Phrase} {length : Nat}
    (tail : ∀ text length, length? (next :: words) text = some length ↔
      Begins (next :: words) text length) :
    length? (word :: next :: words) text = some length ↔
      Begins (word :: next :: words) text length := by
  rw [length?]
  constructor
  · intro found
    split at found
    · cases found
    · rename_i rest after
      obtain ⟨spelt,rfl,spells⟩ := afterWord?_eq_some_iff.mp after
      split at found
      · cases found
      · rename_i apart
        split at found
        · cases found
        · rename_i n behind
          cases found
          have begins := Begins.cons spells apart (fun c gap => List.mem_takeWhile_imp gap)
            (stops_dropWhile rest) ((tail _ _).mp behind)
          rw [List.takeWhile_append_dropWhile] at begins
          exact begins
  · rintro (_ | ⟨spells,apart,gaps,stop,behind⟩)
    rename_i spelt gap rest n
    rw [afterWord?_eq_some_iff.mpr ⟨spelt,rfl,spells⟩]
    simp only [takeWhile_run gaps stop,dropWhile_run gaps stop,(tail _ _).mpr behind]

theorem length?_eq_some_iff {phrase : Phrase} {text : Text} {length : Nat} :
    phrase.length? text = some length ↔ Begins phrase text length := by
  induction phrase generalizing text length with
  | nil =>
    constructor
    · intro found
      cases found
    · intro begins
      cases begins
  | cons word words ih =>
    cases words with
    | nil => exact length?_last_iff
    | cons next words => exact length?_cons_iff fun text length => ih

theorem letters_of_spells {spelt word : Text} (capitals : ∀ c ∈ word, c.isUpper = true)
    (spells : upper spelt = word) : ∀ c ∈ spelt, isWord c = true := by
  intro c letter
  apply isWord_of_isUpper_toUpper
  apply capitals
  rw [← spells]
  exact List.mem_map_of_mem letter

theorem stops_gap {gap : Text} (rest : Text) (apart : gap ≠ [])
    (gaps : ∀ c ∈ gap, isGap c = true) : Stops isWord (gap ++ rest) := by
  obtain ⟨c,gap,rfl⟩ := List.exists_cons_of_ne_nil apart
  exact stops_cons.mpr (isWord_eq_false_of_isGap (gaps c (by simp)))

theorem not_endsInWord_gap {gap : Text} (before : Text) (apart : gap ≠ [])
    (gaps : ∀ c ∈ gap, isGap c = true) : endsInWord (before ++ gap) = false := by
  rw [endsInWord_append before apart]
  unfold endsInWord
  rw [List.getLast?_eq_some_getLast apart]
  exact isWord_eq_false_of_isGap (gaps _ (List.getLast_mem apart))

theorem Keywords.tail {word next : Text} {words : Phrase}
    (keywords : Keywords (word :: next :: words)) : Keywords (next :: words) :=
  ⟨by simp,fun other member => keywords.2 other (List.mem_cons_of_mem _ member)⟩

theorem Begins.first {word text : Text} {words : Phrase} {length : Nat}
    (begins : Begins (word :: words) text length) :
    ∃ spelt rest, text = spelt ++ rest ∧ upper spelt = word ∧ Stops isWord rest := by
  cases begins with
  | last spells stop => exact ⟨_,_,rfl,spells,stop⟩
  | cons spells apart gaps stop behind => exact ⟨_,_,rfl,spells,stops_gap _ apart gaps⟩

theorem Begins.letter {word text : Text} {words : Phrase} {length : Nat}
    (keywords : Keywords (word :: words)) (begins : Begins (word :: words) text length) :
    ∃ c rest, text = c :: rest ∧ isWord c = true := by
  obtain ⟨nonempty,capitals⟩ := keywords.2 word (by simp)
  obtain ⟨spelt,rest,rfl,spells,-⟩ := begins.first
  cases spelt with
  | nil => exact absurd spells.symm nonempty
  | cons c spelt => exact ⟨c,spelt ++ rest,rfl,letters_of_spells capitals spells c (by simp)⟩

theorem spells_iff {text word : Text} {start : Nat} (keyword : word ≠ [])
    (capitals : ∀ c ∈ word, c.isUpper = true) : Spells text start word ↔
      endsInWord (text.take start) = false ∧
        ∃ spelt rest, text.drop start = spelt ++ rest ∧ upper spelt = word ∧ Stops isWord rest := by
  constructor
  · intro spells
    obtain ⟨spelt,found,spells⟩ := Option.map_eq_some_iff.mp spells
    obtain ⟨apart,-,-,rest,shape,stop⟩ := wordAt?_eq_some_iff.mp found
    exact ⟨apart,spelt,rest,shape,spells,stop⟩
  · rintro ⟨apart,spelt,rest,shape,spells,stop⟩
    have nonempty : spelt ≠ [] := by
      rintro rfl
      exact keyword spells.symm
    exact Option.map_eq_some_iff.mpr ⟨spelt,wordAt?_eq_some_iff.mpr
      ⟨apart,nonempty,letters_of_spells capitals spells,rest,shape,stop⟩,spells⟩

theorem matchAt?_eq_some_iff {phrase : Phrase} {text : Text} {start length : Nat} :
    phrase.matchAt? text start = some length ↔
      endsInWord (text.take start) = false ∧ Begins phrase (text.drop start) length := by
  unfold matchAt?
  split
  · simp_all
  · simp_all [length?_eq_some_iff]

theorem spells_of_matchAt? {word text : Text} {words : Phrase} {start length : Nat}
    (keywords : Keywords (word :: words))
    (found : matchAt? (word :: words) text start = some length) : Spells text start word := by
  obtain ⟨apart,begins⟩ := matchAt?_eq_some_iff.mp found
  obtain ⟨nonempty,capitals⟩ := keywords.2 word (by simp)
  exact (spells_iff nonempty capitals).mpr ⟨apart,begins.first⟩

theorem standsAt_of_matchAt? {phrase : Phrase} {text : Text} {start length : Nat}
    (keywords : Keywords phrase) (found : phrase.matchAt? text start = some length) :
    phrase.StandsAt text start := by
  induction phrase generalizing start length with
  | nil => exact absurd rfl keywords.1
  | cons word words ih =>
    have first := spells_of_matchAt? keywords found
    cases words with
    | nil => exact first
    | cons next words =>
      obtain ⟨apart,begins⟩ := matchAt?_eq_some_iff.mp found
      generalize shape : text.drop start = behind at begins
      cases begins with
      | @cons _ _ _ spelt gap rest n spells nonempty gaps stop tail =>
        have size : word.length = spelt.length := by rw [← spells,length_upper]
        have afterWord : text.drop (start + word.length) = gap ++ rest := by
          rw [size,← List.drop_drop,shape,List.drop_left]
        have afterGap : text.drop (start + word.length + gap.length) = rest := by
          rw [← List.drop_drop,afterWord,List.drop_left]
        refine ⟨first,start + word.length + gap.length,by omega,?_,ih keywords.tail
          (matchAt?_eq_some_iff.mpr ⟨?_,afterGap ▸ tail⟩)⟩
        · rw [List.extract_eq_take_drop,afterWord,Nat.add_sub_cancel_left,List.take_left]
          exact gaps
        · rw [List.take_add,afterWord,List.take_left]
          exact not_endsInWord_gap _ nonempty gaps

theorem exists_matchAt?_of_standsAt {phrase : Phrase} {text : Text} {start : Nat}
    (keywords : Keywords phrase) (stands : phrase.StandsAt text start) :
    ∃ length, phrase.matchAt? text start = some length := by
  induction phrase generalizing start with
  | nil => exact absurd rfl keywords.1
  | cons word words ih =>
    obtain ⟨nonempty,capitals⟩ := keywords.2 word (by simp)
    cases words with
    | nil =>
      obtain ⟨apart,spelt,rest,shape,spells,stop⟩ := (spells_iff nonempty capitals).mp stands
      refine ⟨word.length,matchAt?_eq_some_iff.mpr ⟨apart,?_⟩⟩
      rw [shape]
      exact .last spells stop
    | cons next words =>
      obtain ⟨first,later,forward,gaps,tail⟩ := stands
      obtain ⟨n,found⟩ := ih keywords.tail tail
      obtain ⟨-,begins⟩ := matchAt?_eq_some_iff.mp found
      obtain ⟨c,letters,starts,letter⟩ := begins.letter keywords.tail
      obtain ⟨apart,spelt,behind,shape,spells,stop⟩ := (spells_iff nonempty capitals).mp first
      have size : word.length = spelt.length := by rw [← spells,length_upper]
      have afterWord : text.drop (start + word.length) = behind := by
        rw [size,← List.drop_drop,shape,List.drop_left]
      have afterGap : behind.drop (later - (start + word.length)) = text.drop later := by
        rw [← afterWord,List.drop_drop,Nat.add_sub_cancel' forward]
      have parts : behind = text.extract (start + word.length) later ++ text.drop later := by
        rw [List.extract_eq_take_drop,afterWord,← afterGap,List.take_append_drop]
      -- Without a gap the next word would go on with this one.
      have gap : text.extract (start + word.length) later ≠ [] := by
        intro empty
        rw [parts,empty,List.nil_append,starts,stops_cons,letter] at stop
        cases stop
      have stop' : Stops isGap (text.drop later) := by
        rw [starts]
        exact stops_cons.mpr (isGap_eq_false_of_isWord letter)
      have whole := Begins.cons spells gap gaps stop' begins
      rw [← parts,← shape] at whole
      exact ⟨_,matchAt?_eq_some_iff.mpr ⟨apart,whole⟩⟩

/-- A search finds a phrase exactly where its words stand. -/
theorem standsAt_iff {phrase : Phrase} (keywords : Keywords phrase) (text : Text) (start : Nat) :
    phrase.StandsAt text start ↔ ∃ length, phrase.matchAt? text start = some length :=
  ⟨exists_matchAt?_of_standsAt keywords,fun ⟨_,found⟩ => standsAt_of_matchAt? keywords found⟩

theorem spells_of_standsAt {word text : Text} {words : Phrase} {start : Nat}
    (stands : StandsAt text (word :: words) start) : Spells text start word := by
  cases words with
  | nil => exact stands
  | cons next words => exact stands.1

theorem Begins.length_pos {phrase : Phrase} {text : Text} {length : Nat}
    (keywords : Keywords phrase) (begins : Begins phrase text length) : 0 < length := by
  cases begins with
  | last spells stop => exact List.length_pos_iff.mpr (keywords.2 _ (by simp)).1
  | cons spells apart gaps stop behind =>
    have nonempty := List.length_pos_iff.mpr apart
    omega

theorem Begins.length_le {phrase : Phrase} {text : Text} {length : Nat}
    (begins : Begins phrase text length) : length ≤ text.length := by
  induction begins with
  | last spells stop => simp [← spells]
  | cons spells apart gaps stop behind ih =>
    simp only [← spells,length_upper,List.length_append]
    omega

theorem wordAt?_run {run : Text} (rest : Text) (letters : ∀ c ∈ run, isWord c = true) {inside : Nat}
    (positive : 0 < inside) (bound : inside ≤ run.length) : wordAt? (run ++ rest) inside = none := by
  have part : (run ++ rest).take inside = run.take inside := List.take_append_of_le_length bound
  have nonempty : run.take inside ≠ [] := by
    intro empty
    have size := congrArg List.length empty
    simp only [List.length_take,List.length_nil] at size
    omega
  have ends := endsInWord_of_letters [] nonempty fun c member => letters c (List.mem_of_mem_take member)
  rw [List.nil_append] at ends
  unfold wordAt?
  rw [part,ends]
  rfl

theorem wordAt?_gap {gap : Text} (rest : Text) (gaps : ∀ c ∈ gap, isGap c = true) {inside : Nat}
    (bound : inside < gap.length) : wordAt? (gap ++ rest) inside = none := by
  have part : (gap ++ rest).drop inside = gap.drop inside ++ rest :=
    List.drop_append_of_le_length (by omega)
  have nonempty : gap.drop inside ≠ [] := by
    intro empty
    have size := congrArg List.length empty
    simp only [List.length_drop,List.length_nil] at size
    omega
  have stop := stops_gap rest nonempty fun c member => gaps c (List.mem_of_mem_drop member)
  unfold wordAt?
  rw [part,startsInWord_eq_false_iff.mpr stop]
  simp

theorem upper_of_wordAt?_zero {word text found : Text} {words : Phrase} {length : Nat}
    (keywords : Keywords (word :: words)) (begins : Begins (word :: words) text length)
    (stands : wordAt? text 0 = some found) : upper found = word := by
  obtain ⟨nonempty,capitals⟩ := keywords.2 word (by simp)
  have spells : Spells text 0 word := (spells_iff nonempty capitals).mpr ⟨rfl,begins.first⟩
  unfold Spells at spells
  rw [stands] at spells
  exact Option.some.inj spells

/-- The words that start inside what a phrase begins are the later words of the phrase. -/
theorem Begins.inner {phrase : Phrase} {text found : Text} {length inside : Nat}
    (keywords : Keywords phrase) (begins : Begins phrase text length) (positive : 0 < inside)
    (before : inside < length) (stands : wordAt? text inside = some found) :
    upper found ∈ phrase.tail := by
  induction begins generalizing inside with
  | @last word spelt rest spells stop =>
    obtain ⟨-,capitals⟩ := keywords.2 word (by simp)
    have bound : inside ≤ spelt.length := by
      rw [← spells,length_upper] at before
      omega
    rw [wordAt?_run rest (letters_of_spells capitals spells) positive bound] at stands
    cases stands
  | @cons word next words spelt gap rest n spells apart gaps stop behind ih =>
    obtain ⟨-,capitals⟩ := keywords.2 word (by simp)
    rw [← spells,length_upper] at before
    rcases Nat.lt_or_ge spelt.length inside with later | bound
    · obtain ⟨j,rfl⟩ := Nat.exists_eq_add_of_lt later
      rw [Nat.add_assoc,wordAt?_append spelt (gap ++ rest) (j + 1) (.inr (by omega))] at stands
      rcases Nat.lt_or_ge (j + 1) gap.length with inGap | behindGap
      · rw [wordAt?_gap rest gaps inGap] at stands
        cases stands
      · obtain ⟨k,reached⟩ := Nat.exists_eq_add_of_le behindGap
        have ends := not_endsInWord_gap [] apart gaps
        rw [reached,wordAt?_append gap rest k (.inl ends)] at stands
        rcases Nat.eq_zero_or_pos k with rfl | positive
        · rw [upper_of_wordAt?_zero keywords.tail behind stands]
          exact List.mem_cons_self
        · exact List.mem_cons_of_mem _ (ih keywords.tail positive (by omega) stands)
    · rw [wordAt?_run (gap ++ rest) (letters_of_spells capitals spells) positive bound] at stands
      cases stands

theorem start_lt_of_matchAt? {phrase : Phrase} {text : Text} {start length : Nat}
    (keywords : Keywords phrase) (found : phrase.matchAt? text start = some length) :
    start + length ≤ text.length ∧ 0 < length := by
  obtain ⟨-,begins⟩ := matchAt?_eq_some_iff.mp found
  have positive := begins.length_pos keywords
  have bound := begins.length_le
  rw [List.length_drop] at bound
  exact ⟨by omega,positive⟩

theorem lt_of_standsAt {phrase : Phrase} (keywords : Keywords phrase) {text : Text} {offset : Nat}
    (stands : phrase.StandsAt text offset) : offset < text.length := by
  obtain ⟨length,found⟩ := (standsAt_iff keywords text offset).mp stands
  have within := start_lt_of_matchAt? keywords found
  omega

def Avoids (phrase words : Phrase) : Prop :=
  ∀ first ∈ phrase.head?, first ∉ words

theorem Avoids.tail {phrase words : Phrase} (avoids : Avoids phrase words) :
    Avoids phrase words.tail :=
  fun first head member => avoids first head (List.mem_of_mem_tail member)

/-- No phrase is found inside another one of which the later words are not its first. -/
theorem matchAt?_inside {outer inner : Phrase} {text : Text} {start length inside : Nat}
    (outerWords : Keywords outer) (innerWords : Keywords inner) (avoids : Avoids inner outer.tail)
    (found : outer.matchAt? text start = some length) (behind : start < inside)
    (before : inside < start + length) : inner.matchAt? text inside = none := by
  by_contra other
  obtain ⟨n,other⟩ := Option.ne_none_iff_exists'.mp other
  obtain ⟨first,words,rfl⟩ := List.exists_cons_of_ne_nil innerWords.1
  obtain ⟨-,begins⟩ := matchAt?_eq_some_iff.mp found
  obtain ⟨bound,-⟩ := start_lt_of_matchAt? outerWords found
  obtain ⟨spelt,stands,spells⟩ := Option.map_eq_some_iff.mp (spells_of_matchAt? innerWords other)
  have size : (text.take start).length = start := by
    rw [List.length_take]
    omega
  have shift := wordAt?_append (text.take start) (text.drop start) (inside - start)
    (.inr (by omega))
  rw [List.take_append_drop,size,Nat.add_sub_cancel' behind.le,stands] at shift
  have member := begins.inner outerWords (by omega) (by omega) shift.symm
  rw [spells] at member
  exact avoids first (by simp) member

theorem matchAt?_same {phrase other : Phrase} {text : Text} {start length : Nat}
    (phraseWords : Keywords phrase) (otherWords : Keywords other)
    (avoids : Avoids other phrase)
    (found : phrase.matchAt? text start = some length) : other.matchAt? text start = none := by
  by_contra present
  obtain ⟨n,present⟩ := Option.ne_none_iff_exists'.mp present
  obtain ⟨first,words,rfl⟩ := List.exists_cons_of_ne_nil phraseWords.1
  obtain ⟨second,others,rfl⟩ := List.exists_cons_of_ne_nil otherWords.1
  have spells := spells_of_matchAt? phraseWords found
  unfold Spells at spells
  rw [spells_of_matchAt? otherWords present] at spells
  cases spells
  exact avoids _ rfl List.mem_cons_self

end SchemaLint.Phrase
