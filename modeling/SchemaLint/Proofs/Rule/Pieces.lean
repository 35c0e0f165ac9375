import SchemaLint.Proofs.Rule.Continuation

/-! Texts in two pieces with a statement end on a line of its own between them. No phrase reaches across
it, and a span does only where the first piece leaves an opening phrase without a closing one.
-/
namespace SchemaLint
open Text

def Text.separator : Text :=
  "\n;\n".toList

theorem Text.separator_append (text : Text) : separator ++ text = '\n' :: ';' :: '\n' :: text := rfl

namespace Phrase

theorem letter_of_matchAt? {phrase : Phrase} {text : Text} {start length : Nat}
    (keywords : Keywords phrase) (found : phrase.matchAt? text start = some length) :
    ∃ c rest, text.drop start = c :: rest ∧ isWord c = true := by
  obtain ⟨word,words,rfl⟩ := List.exists_cons_of_ne_nil keywords.1
  exact (matchAt?_eq_some_iff.mp found).2.letter keywords

/-- A phrase ends in front of every character that belongs neither to a word nor to a gap. -/
theorem matchAt?_foreign {phrase : Phrase} {before behind : Text} {c : Char} {start length : Nat}
    (keywords : Keywords phrase) (foreign : isWord c = false) (noGap : isGap c = false)
    (found : phrase.matchAt? (before ++ c :: behind) start = some length)
    (inside : start ≤ before.length) : start + length ≤ before.length := by
  obtain ⟨-,begins⟩ := matchAt?_eq_some_iff.mp found
  by_contra across
  obtain ⟨more,size⟩ : ∃ more, length - (before.drop start).length = more + 1 := by
    refine ⟨length - (before.drop start).length - 1,?_⟩
    rw [List.length_drop]
    omega
  have member : c ∈ ((before ++ c :: behind).drop start).take length := by
    rw [List.drop_append_of_le_length inside,List.take_append,size,List.take_succ_cons]
    exact List.mem_append_right _ List.mem_cons_self
  rcases begins.chars keywords c member with word | gap
  · rw [foreign] at word
    cases word
  · rw [noGap] at gap
    cases gap

variable {phrase : Phrase}

theorem end_le_of_matchAt? (keywords : Keywords phrase) {front back : Text} {start length : Nat}
    (found : phrase.matchAt? (front ++ separator ++ back) start = some length)
    (inside : start < front.length) : start + length ≤ front.length := by
  have parts : front ++ separator ++ back = (front ++ ['\n']) ++ ';' :: '\n' :: back := by
    rw [List.append_assoc,separator_append,List.append_assoc,List.singleton_append]
  rw [parts] at found
  have bound := matchAt?_foreign keywords (by decide) (by decide) found
    (by rw [List.length_append]; omega)
  have ends := endsInWord_of_matchAt? keywords found
  have different : start + length ≠ (front ++ ['\n']).length := by
    intro last
    rw [last,List.take_left,endsInWord_append front (by simp)] at ends
    revert ends
    decide
  rw [List.length_append,List.length_singleton] at bound different
  omega

theorem matchAt?_front (keywords : Keywords phrase) {front : Text} (back : Text) {start : Nat}
    (inside : start < front.length) :
    phrase.matchAt? (front ++ separator ++ back) start = phrase.matchAt? front start := by
  have stop : Stops isWord (separator ++ back) := stops_cons.mpr (by decide)
  ext length
  have part : phrase.matchAt? front start = some length ↔ _ := matchAt?_front_iff keywords stop
  rw [← List.append_assoc] at part
  rw [part]
  exact ⟨fun found => ⟨found,end_le_of_matchAt? keywords found inside⟩,And.left⟩

theorem matchAt?_separator (keywords : Keywords phrase) {front back : Text} {start : Nat}
    (behind : front.length ≤ start) (before : start < (front ++ separator).length) :
    phrase.matchAt? (front ++ separator ++ back) start = none := by
  by_contra present
  obtain ⟨length,found⟩ := Option.ne_none_iff_exists'.mp present
  obtain ⟨c,rest,shape,letter⟩ := letter_of_matchAt? keywords found
  obtain ⟨i,rfl⟩ := Nat.exists_eq_add_of_le behind
  have inside : i < separator.length := by
    rw [List.length_append] at before
    omega
  rw [List.append_assoc,List.drop_length_add_append,
    List.drop_append_of_le_length inside.le] at shape
  have member : c ∈ separator := by
    refine List.mem_of_mem_drop (i := i) ?_
    rw [List.drop_eq_getElem_cons inside] at shape ⊢
    rw [(List.cons.inj shape).1]
    exact List.mem_cons_self
  have foreign : separator.any isWord = false := by decide
  rw [List.any_eq_false] at foreign
  exact foreign c member letter

theorem standsAt_front (keywords : Keywords phrase) {front : Text} (back : Text) {offset : Nat}
    (inside : offset < front.length) :
    phrase.StandsAt (front ++ separator ++ back) offset ↔ phrase.StandsAt front offset := by
  rw [standsAt_iff keywords,standsAt_iff keywords,matchAt?_front keywords back inside]

theorem standsAt_back (keywords : Keywords phrase) (front back : Text) (place : Nat) :
    phrase.StandsAt (front ++ separator ++ back) ((front ++ separator).length + place) ↔
      phrase.StandsAt back place := by
  have apart : endsInWord (front ++ separator) = false := endsInWord_append front (by decide)
  rw [standsAt_iff keywords,standsAt_iff keywords,matchAt?_append phrase back place apart]

theorem standsAt_pieces (keywords : Keywords phrase) (front back : Text) (offset : Nat) :
    phrase.StandsAt (front ++ separator ++ back) offset ↔
      phrase.StandsAt front offset ∨
        ∃ place, offset = (front ++ separator).length + place ∧ phrase.StandsAt back place := by
  constructor
  · intro stands
    rcases Nat.lt_or_ge offset front.length with inside | outside
    · exact .inl ((standsAt_front keywords back inside).mp stands)
    · rcases Nat.lt_or_ge offset (front ++ separator).length with between | behind
      · obtain ⟨length,found⟩ := (standsAt_iff keywords _ _).mp stands
        rw [matchAt?_separator keywords outside between] at found
        cases found
      · obtain ⟨place,rfl⟩ := Nat.exists_eq_add_of_le behind
        exact .inr ⟨place,rfl,(standsAt_back keywords front back place).mp stands⟩
  · rintro (stands | ⟨place,rfl,stands⟩)
    · exact (standsAt_front keywords back (lt_of_standsAt keywords stands)).mpr stands
    · exact (standsAt_back keywords front back place).mpr stands

end Phrase

namespace Pattern
open Phrase

/-- Whether a text leaves no span open: a closing phrase stands behind each opening one. -/
def Settled : Pattern → Text → Prop
  | anyOf _, _ => True
  | span opening closing, text => ∀ start, opening.StandsAt text start →
      ∃ later, start < later ∧ closing.StandsAt text later

section Bracket
variable {opening closing : Phrase}

theorem openAt_front (bracket : Bracket opening closing) {front : Text} (back : Text) {offset : Nat}
    (inside : offset < front.length) :
    OpenAt opening closing (front ++ separator ++ back) offset ↔
      OpenAt opening closing front offset := by
  constructor
  · rintro ⟨previous,before,opened,missing⟩
    refine ⟨previous,before,(standsAt_front bracket.openingWords back (by omega)).mp opened,?_⟩
    intro between behind ahead stands
    exact missing between behind ahead
      ((standsAt_front bracket.closingWords back (by omega)).mpr stands)
  · rintro ⟨previous,before,opened,missing⟩
    refine ⟨previous,before,(standsAt_front bracket.openingWords back (by omega)).mpr opened,?_⟩
    intro between behind ahead stands
    exact missing between behind ahead
      ((standsAt_front bracket.closingWords back (by omega)).mp stands)

theorem openAt_back (bracket : Bracket opening closing) {front : Text} (back : Text) (place : Nat)
    (settled : (span opening closing).Settled front) :
    OpenAt opening closing (front ++ separator ++ back) ((front ++ separator).length + place) ↔
      OpenAt opening closing back place := by
  have size : front.length ≤ (front ++ separator).length := by simp
  constructor
  · rintro ⟨previous,before,opened,missing⟩
    rcases (standsAt_pieces bracket.openingWords front back previous).mp opened with
      inFront | ⟨previous,rfl,inBack⟩
    · obtain ⟨later,behind,closed⟩ := settled previous inFront
      have within := lt_of_standsAt bracket.closingWords closed
      exact absurd ((standsAt_front bracket.closingWords back within).mpr closed)
        (missing later behind (by omega))
    · refine ⟨previous,by omega,inBack,fun between behind ahead stands => ?_⟩
      exact missing ((front ++ separator).length + between) (by omega) (by omega)
        ((standsAt_back bracket.closingWords front back between).mpr stands)
  · rintro ⟨previous,before,opened,missing⟩
    refine ⟨(front ++ separator).length + previous,by omega,
      (standsAt_back bracket.openingWords front back previous).mpr opened,?_⟩
    intro between behind ahead stands
    rcases (standsAt_pieces bracket.closingWords front back between).mp stands with
      inFront | ⟨between,rfl,inBack⟩
    · have within := lt_of_standsAt bracket.closingWords inFront
      omega
    · exact missing between (by omega) (by omega) inBack

theorem spanAt_pieces (bracket : Bracket opening closing) (front back : Text)
    (settled : (span opening closing).Settled front) (offset : Nat) :
    SpanAt opening closing (front ++ separator ++ back) offset ↔
      SpanAt opening closing front offset ∨
        ∃ place, offset = (front ++ separator).length + place ∧
          SpanAt opening closing back place := by
  have size : front.length ≤ (front ++ separator).length := by simp
  constructor
  · rintro ⟨opened,⟨later,behind,closed⟩,first⟩
    rcases (standsAt_pieces bracket.openingWords front back offset).mp opened with
      inFront | ⟨place,rfl,inBack⟩
    · rw [openAt_front bracket back (lt_of_standsAt bracket.openingWords inFront)] at first
      exact .inl ⟨inFront,settled offset inFront,first⟩
    · rw [openAt_back bracket back place settled] at first
      rcases (standsAt_pieces bracket.closingWords front back later).mp closed with
        ahead | ⟨later,rfl,closes⟩
      · have within := lt_of_standsAt bracket.closingWords ahead
        omega
      · exact .inr ⟨place,rfl,inBack,⟨later,by omega,closes⟩,first⟩
  · rintro (⟨opened,⟨later,behind,closed⟩,first⟩ | ⟨place,rfl,opened,⟨later,behind,closed⟩,first⟩)
    · have within := lt_of_standsAt bracket.closingWords closed
      rw [← openAt_front bracket back (by omega)] at first
      exact ⟨(standsAt_front bracket.openingWords back (by omega)).mpr opened,
        ⟨later,behind,(standsAt_front bracket.closingWords back within).mpr closed⟩,first⟩
    · rw [← openAt_back bracket back place settled] at first
      exact ⟨(standsAt_back bracket.openingWords front back place).mpr opened,
        ⟨(front ++ separator).length + later,by omega,
          (standsAt_back bracket.closingWords front back later).mpr closed⟩,first⟩

end Bracket

/-- The occurrences in the whole text are those in its pieces. -/
theorem startsAt_pieces {pattern : Pattern} (wellFormed : pattern.WellFormed) {front : Text}
    (settled : pattern.Settled front) (back : Text) (offset : Nat) :
    pattern.StartsAt (front ++ separator ++ back) offset ↔
      pattern.StartsAt front offset ∨
        ∃ place, offset = (front ++ separator).length + place ∧ pattern.StartsAt back place := by
  cases pattern with
  | span opening closing => exact spanAt_pieces wellFormed front back settled offset
  | anyOf phrases =>
    constructor
    · rintro ⟨phrase,member,stands⟩
      rcases (standsAt_pieces (wellFormed.keywords phrase member) front back offset).mp stands with
        inFront | ⟨place,rfl,inBack⟩
      · exact .inl ⟨phrase,member,inFront⟩
      · exact .inr ⟨place,rfl,phrase,member,inBack⟩
    · rintro (⟨phrase,member,stands⟩ | ⟨place,rfl,phrase,member,stands⟩)
      · exact ⟨phrase,member,(standsAt_pieces (wellFormed.keywords phrase member) front back _).mpr
          (.inl stands)⟩
      · exact ⟨phrase,member,(standsAt_pieces (wellFormed.keywords phrase member) front back _).mpr
          (.inr ⟨place,rfl,stands⟩)⟩

end Pattern
end SchemaLint
