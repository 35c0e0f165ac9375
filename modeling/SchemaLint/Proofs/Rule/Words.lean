import SchemaLint.Rule.Phrase
import SchemaLint.Proofs.Text.Run

/-! The words of a text, and phrases as words that are joined by gaps. What a search reads from an
offset on is there exactly when the words of the phrase stand there.
-/
namespace SchemaLint
namespace Text

def upper (text : Text) : Text :=
  text.map Char.toUpper

/-- Whether a word reaches up to the end of this text. -/
def endsInWord (text : Text) : Bool :=
  text.getLast?.any isWord

/-- The word that starts at an offset: the run of word characters from there on, unless a word
reaches up to the offset. -/
def wordAt? (text : Text) (start : Nat) : Option Text :=
  if endsInWord (text.take start) || !startsInWord (text.drop start) then none
  else some ((text.drop start).takeWhile isWord)

@[simp] theorem endsInWord_nil : endsInWord [] = false := rfl

@[simp] theorem length_upper (text : Text) : (upper text).length = text.length :=
  List.length_map _

theorem isWord_of_isUpper_toUpper {c : Char} (letter : c.toUpper.isUpper = true) :
    isWord c = true := by
  have either : (c.isUpper || c.isLower) = true := by
    unfold Char.toUpper at letter
    split at letter
    · rename_i lower
      have isLower : c.isLower = true :=
        Bool.and_eq_true_iff.mpr ⟨decide_eq_true lower.1,decide_eq_true lower.2⟩
      rw [isLower,Bool.or_true]
    · rw [letter,Bool.true_or]
  change (c.isUpper || c.isLower || c.isDigit || decide (c = '_')) = true
  rw [either,Bool.true_or,Bool.true_or]

theorem isGap_eq_false_of_isWord {c : Char} (letter : isWord c = true) : isGap c = false := by
  by_contra gap
  rw [Bool.not_eq_false] at gap
  rw [isWord_eq_false_of_isGap gap] at letter
  cases letter

theorem startsInWord_eq_false_iff {text : Text} :
    startsInWord text = false ↔ Stops isWord text := by
  cases text <;> simp [startsInWord,Stops]

theorem endsInWord_append {behind : Text} (text : Text) (nonempty : behind ≠ []) :
    endsInWord (text ++ behind) = endsInWord behind := by
  unfold endsInWord
  rw [List.getLast?_append,List.getLast?_eq_some_getLast nonempty,Option.some_or]

theorem endsInWord_of_letters {word : Text} (before : Text) (nonempty : word ≠ [])
    (letters : ∀ c ∈ word, isWord c = true) : endsInWord (before ++ word) = true := by
  rw [endsInWord_append before nonempty]
  unfold endsInWord
  rw [List.getLast?_eq_some_getLast nonempty]
  exact letters _ (List.getLast_mem nonempty)

theorem wordAt?_eq_some_iff {text word : Text} {start : Nat} : wordAt? text start = some word ↔
    endsInWord (text.take start) = false ∧ word ≠ [] ∧ (∀ c ∈ word, isWord c = true) ∧
      ∃ rest, text.drop start = word ++ rest ∧ Stops isWord rest := by
  obtain ⟨run,rest,shape,letters,stop⟩ := exists_run isWord (text.drop start)
  have starts : startsInWord (text.drop start) = true ↔ run ≠ [] := by
    cases run with
    | nil => simp [shape,startsInWord_eq_false_iff.mpr stop]
    | cons c run => simp [shape,startsInWord,letters c (by simp)]
  unfold wordAt?
  rw [shape,takeWhile_run letters stop,← shape]
  constructor
  · intro found
    split at found
    · cases found
    · rename_i inside
      rw [Bool.or_eq_true,not_or,Bool.not_eq_true,Bool.not_eq_true,Bool.not_eq_false'] at inside
      cases found
      exact ⟨inside.1,starts.mp inside.2,letters,rest,shape,stop⟩
  · rintro ⟨apart,nonempty,letters',rest',shape',stop'⟩
    have equal : run = word := by
      rw [← takeWhile_run letters stop,← shape,shape',takeWhile_run letters' stop']
    subst equal
    rw [if_neg (by simp [apart,starts.mpr nonempty])]

theorem wordAt?_append (before text : Text) (start : Nat)
    (apart : endsInWord before = false ∨ 0 < start) :
    wordAt? (before ++ text) (before.length + start) = wordAt? text start := by
  unfold wordAt?
  rw [List.take_length_add_append,List.drop_length_add_append]
  by_cases empty : text.take start = []
  · rcases List.take_eq_nil_iff.mp empty with rfl | rfl
    · have ends : endsInWord before = false := by simpa using apart
      simp [ends]
    · simp [startsInWord]
  · rw [endsInWord_append before empty]

end Text
end SchemaLint
