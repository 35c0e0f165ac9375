import SchemaLint.Proofs.Rule.Words
import SchemaLint.Proofs.Text.LineAt
import Mathlib.Data.List.Forall2

/-! Characters that cannot be told apart by what a search looks at: a letter in either case, gaps within
a line, and characters that are part of no word, no gap and no comment delimiter. Texts that are alike
character by character have their words, gaps, delimiters and line feeds at the same offsets.
-/
namespace SchemaLint.Text

def isInlineGap (c : Char) : Bool :=
  isGap c && c ≠ '\n'

def delimiters : List Char :=
  ['-','/','*','\n']

/-- Whether a character is part of nothing that a search looks for. -/
def isInert (c : Char) : Bool :=
  !isWord c && !isGap c && !delimiters.contains c

/-- Whether two characters are the same, or one letter in two cases, or both gaps within a line, or
both inert. -/
def Similar (c d : Char) : Prop :=
  c = d ∨ (c.isAlpha = true ∧ d.isAlpha = true ∧ c.toUpper = d.toUpper) ∨
    (isInlineGap c = true ∧ isInlineGap d = true) ∨ (isInert c = true ∧ isInert d = true)

instance (c d : Char) : Decidable (Similar c d) :=
  inferInstanceAs (Decidable (_ ∨ _))

theorem Similar.symm {c d : Char} (similar : Similar c d) : Similar d c := by
  rcases similar with rfl | ⟨left,right,same⟩ | ⟨left,right⟩ | ⟨left,right⟩
  · exact .inl rfl
  · exact .inr (.inl ⟨right,left,same.symm⟩)
  · exact .inr (.inr (.inl ⟨right,left⟩))
  · exact .inr (.inr (.inr ⟨right,left⟩))

theorem isWord_of_isAlpha {c : Char} (letter : c.isAlpha = true) : isWord c = true := by
  unfold isWord Char.isAlphanum
  rw [letter,Bool.true_or,Bool.true_or]

theorem isGap_of_isInlineGap {c : Char} (gap : isInlineGap c = true) : isGap c = true :=
  (Bool.and_eq_true_iff.mp gap).1

theorem isInert_iff {c : Char} :
    isInert c = true ↔ isWord c = false ∧ isGap c = false ∧ c ∉ delimiters := by
  simp [isInert,and_assoc]

theorem Similar.isWord_eq {c d : Char} (similar : Similar c d) : isWord c = isWord d := by
  rcases similar with rfl | ⟨left,right,-⟩ | ⟨left,right⟩ | ⟨left,right⟩
  · rfl
  · rw [isWord_of_isAlpha left,isWord_of_isAlpha right]
  · rw [isWord_eq_false_of_isGap (isGap_of_isInlineGap left),
      isWord_eq_false_of_isGap (isGap_of_isInlineGap right)]
  · rw [(isInert_iff.mp left).1,(isInert_iff.mp right).1]

theorem Similar.isGap_eq {c d : Char} (similar : Similar c d) : isGap c = isGap d := by
  rcases similar with rfl | ⟨left,right,-⟩ | ⟨left,right⟩ | ⟨left,right⟩
  · rfl
  · rw [isGap_eq_false_of_isWord (isWord_of_isAlpha left),
      isGap_eq_false_of_isWord (isWord_of_isAlpha right)]
  · rw [isGap_of_isInlineGap left,isGap_of_isInlineGap right]
  · rw [(isInert_iff.mp left).2.1,(isInert_iff.mp right).2.1]

theorem Similar.toUpper_eq {c d : Char} (similar : Similar c d) (letter : isWord c = true) :
    c.toUpper = d.toUpper := by
  rcases similar with rfl | ⟨-,-,same⟩ | ⟨left,-⟩ | ⟨left,-⟩
  · rfl
  · exact same
  · rw [isWord_eq_false_of_isGap (isGap_of_isInlineGap left)] at letter
    cases letter
  · rw [(isInert_iff.mp left).1] at letter
    cases letter

theorem Similar.eq_delimiter {c d : Char} (similar : Similar c d) (delimiter : c ∈ delimiters) :
    c = d := by
  have other : ∀ mark ∈ delimiters, mark.isAlpha = false ∧ isInlineGap mark = false :=
    List.forall_iff_forall_mem.mp (by decide)
  rcases similar with same | ⟨letter,-⟩ | ⟨gap,-⟩ | ⟨inert,-⟩
  · exact same
  · rw [(other c delimiter).1] at letter
    cases letter
  · rw [(other c delimiter).2] at gap
    cases gap
  · exact absurd delimiter (isInert_iff.mp inert).2.2

theorem Similar.eq_iff {c d mark : Char} (similar : Similar c d) (delimiter : mark ∈ delimiters) :
    c = mark ↔ d = mark := by
  constructor
  · rintro rfl
    exact (similar.eq_delimiter delimiter).symm
  · rintro rfl
    exact (similar.symm.eq_delimiter delimiter).symm

def Alike (text other : Text) : Prop :=
  List.Forall₂ Similar text other

instance (text other : Text) : Decidable (Alike text other) :=
  inferInstanceAs (Decidable (List.Forall₂ Similar text other))

variable {text other : Text}

theorem Alike.take (alike : Alike text other) (n : Nat) : Alike (text.take n) (other.take n) :=
  List.forall₂_take n alike

theorem Alike.drop (alike : Alike text other) (n : Nat) : Alike (text.drop n) (other.drop n) :=
  List.forall₂_drop n alike

theorem Alike.map_eq {α : Type} {f : Char → α} (alike : Alike text other)
    (common : ∀ c d, Similar c d → f c = f d) : text.map f = other.map f := by
  induction alike with
  | nil => rfl
  | cons similar _ ih => rw [List.map_cons,List.map_cons,common _ _ similar,ih]

theorem Alike.cons_delimiter {mark : Char} {rest : Text} (delimiter : mark ∈ delimiters)
    (alike : Alike (mark :: rest) other) : ∃ behind, other = mark :: behind ∧ Alike rest behind := by
  obtain ⟨c,behind,similar,rest,rfl⟩ := List.forall₂_cons_left_iff.mp alike
  exact ⟨behind,by rw [similar.eq_delimiter delimiter],rest⟩

theorem Alike.head?_eq_iff {mark : Char} (alike : Alike text other)
    (delimiter : mark ∈ delimiters) : text.head? = some mark ↔ other.head? = some mark := by
  cases alike with
  | nil => rfl
  | cons similar alike => simpa using similar.eq_iff delimiter

theorem Alike.startsInWord_eq (alike : Alike text other) : startsInWord text = startsInWord other := by
  cases alike with
  | nil => rfl
  | cons similar alike => exact similar.isWord_eq

theorem Alike.endsInWord_eq (alike : Alike text other) : endsInWord text = endsInWord other := by
  have last (text : Text) : endsInWord text = (text.map isWord).getLast?.any id := by
    rw [List.getLast?_map,Option.any_map]
    rfl
  rw [last,last,alike.map_eq fun _ _ => Similar.isWord_eq]

theorem Alike.upper_word (alike : Alike text other) :
    upper (text.takeWhile isWord) = upper (other.takeWhile isWord) := by
  induction alike with
  | nil => rfl
  | @cons c d rest behind similar _ ih =>
    rw [List.takeWhile_cons,List.takeWhile_cons,← similar.isWord_eq]
    split
    · rename_i letter
      change c.toUpper :: upper _ = d.toUpper :: upper _
      rw [similar.toUpper_eq letter,ih]
    · rfl

theorem Alike.upper_wordAt? (alike : Alike text other) (start : Nat) :
    (wordAt? text start).map upper = (wordAt? other start).map upper := by
  unfold wordAt?
  rw [(alike.take start).endsInWord_eq,(alike.drop start).startsInWord_eq]
  split
  · rfl
  · exact congrArg some (alike.drop start).upper_word

theorem Alike.gaps_iff (alike : Alike text other) (start stop : Nat) :
    (∀ c ∈ text.extract start stop, isGap c = true) ↔
      ∀ c ∈ other.extract start stop, isGap c = true := by
  have part : Alike (text.extract start stop) (other.extract start stop) := by
    rw [List.extract_eq_take_drop,List.extract_eq_take_drop]
    exact (alike.drop start).take _
  rw [← List.all_eq_true,← List.all_eq_true]
  have gaps (text : Text) : text.all isGap = (text.map isGap).all id := by
    rw [List.all_map]
    rfl
  rw [gaps,gaps,part.map_eq fun _ _ => Similar.isGap_eq]

end SchemaLint.Text
