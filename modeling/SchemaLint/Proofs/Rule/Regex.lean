import SchemaLint.Proofs.Regex
import SchemaLint.Proofs.Rule.Coverage

/-! The rules as regular expressions. A search for the expression of a rule finds the occurrences of
its pattern, and where the last match of the closing expression ends is how far the pattern reaches.
-/
namespace SchemaLint
open Text

namespace Phrase

/-- The expression of a phrase behind the edge of its first word. -/
def regex : Phrase → Regex
  | [] => .oneOf []
  | [word] => .seq (.word word) .wordEdge
  | word :: next :: words => .seq (.word word) (.seq .gaps (regex (next :: words)))

end Phrase

namespace Code
open Regex

def dropColumn : Regex :=
  seq wordEdge (Phrase.regex ["DROP".toList,"COLUMN".toList])

def regex : Code → Regex
  | createOrReplace =>
    seq wordEdge (Phrase.regex ["CREATE".toList,"OR".toList,"REPLACE".toList])
  | dropStatement =>
    let objects := oneOf (Rule.droppedObjects.map fun object => word object.toList)
    seq wordEdge (seq (word "DROP".toList) (seq gaps (seq objects wordEdge)))
  | transactionControl =>
    seq wordEdge (seq (oneOf [word "BEGIN".toList,word "COMMIT".toList,word "ROLLBACK".toList])
      wordEdge)
  | conditionalDefinition =>
    let perhapsNot := either (seq (word "NOT".toList) gaps) empty
    seq wordEdge (seq (word "IF".toList) (seq gaps (seq perhapsNot
      (seq (word "EXISTS".toList) wordEdge))))
  | alterDrop =>
    seq wordEdge (seq (Phrase.regex ["ALTER".toList,"TABLE".toList])
      (seq (lazy fun _ => true) dropColumn))

/-- The expression that the last part of every match is a match of, for a rule that has one. -/
def tail? : Code → Option Regex
  | alterDrop => some dropColumn
  | _ => none

end Code

namespace Regex
variable {text : Text} {start : Nat} {regex : Regex}

/-- An expression that matches only where a word goes on. -/
def Lettered (regex : Regex) : Prop :=
  ∀ text start, startsInWord (text.drop start) = false → regex.ends text start = []

theorem lettered_word {letters : Text} (keyword : letters ≠ [])
    (capitals : ∀ c ∈ letters, c.isUpper = true) : (word letters).Lettered := by
  intro text start stop
  rw [ends_word]
  cases after : Phrase.afterWord? letters (text.drop start) with
  | none => rfl
  | some rest =>
    obtain ⟨spelt,shape,spells⟩ := Phrase.afterWord?_eq_some_iff.mp after
    cases spelt with
    | nil => exact absurd spells.symm keyword
    | cons c spelt =>
      have letter := Phrase.letters_of_spells capitals spells c (by simp)
      rw [shape,List.cons_append,startsInWord,letter] at stop
      cases stop

theorem Lettered.seq {first : Regex} (lettered : first.Lettered) (second : Regex) :
    (seq first second).Lettered := by
  intro text start stop
  rw [ends_seq,lettered text start stop]
  rfl

/-- Where the word behind this one and its gaps would start. -/
def behindWord? (letters text : Text) (start : Nat) : Option Nat :=
  (Phrase.afterWord? letters (text.drop start)).bind fun rest =>
    match rest.takeWhile isGap with
    | [] => none
    | gap => some (start + letters.length + gap.length)

theorem drop_of_afterWord? {letters rest : Text}
    (after : Phrase.afterWord? letters (text.drop start) = some rest) :
    text.drop (start + letters.length) = rest := by
  obtain ⟨spelt,shape,spells⟩ := Phrase.afterWord?_eq_some_iff.mp after
  rw [← spells,length_upper,← List.drop_drop,shape,List.drop_left]

/-- A word and gaps lead to one place at most where a lettered expression may match. -/
theorem ends_word_gaps_seq (letters : Text) (lettered : regex.Lettered) :
    (seq (word letters) (seq gaps regex)).ends text start =
      (behindWord? letters text start).toList.flatMap (regex.ends text) := by
  rw [ends_seq,ends_word,behindWord?]
  cases after : Phrase.afterWord? letters (text.drop start) with
  | none => rfl
  | some rest =>
    obtain ⟨gap,behind,rfl,gaps,stop⟩ := exists_run isGap rest
    have clear : ∀ start c rest, text.drop start = c :: rest → isGap c = true →
        regex.ends text start = [] := by
      intro start c rest shape gap
      apply lettered
      rw [shape]
      exact isWord_eq_false_of_isGap gap
    simp only [Option.map_some,Option.toList_some,List.flatMap_singleton,Option.bind_some]
    rw [ends_gaps_seq clear (drop_of_afterWord? after) gaps stop,takeWhile_run gaps stop]
    cases gap with
    | nil => rfl
    | cons c gap => simp

end Regex

namespace Phrase
open Regex
variable {phrase : Phrase} {text : Text} {start : Nat}

theorem lettered_regex (keywords : Keywords phrase) : (regex phrase).Lettered := by
  obtain ⟨word,words,rfl⟩ := List.exists_cons_of_ne_nil keywords.1
  obtain ⟨nonempty,capitals⟩ := keywords.2 word (by simp)
  cases words with
  | nil => exact (lettered_word nonempty capitals).seq _
  | cons next words => exact (lettered_word nonempty capitals).seq _

/-- The expression of a phrase matches in one way at most, namely what the phrase does. -/
theorem ends_regex (keywords : Keywords phrase) : (regex phrase).ends text start =
    ((phrase.length? (text.drop start)).map (start + ·)).toList := by
  induction phrase generalizing start with
  | nil => exact absurd rfl keywords.1
  | cons word words ih =>
    obtain ⟨nonempty,capitals⟩ := keywords.2 word (by simp)
    cases words with
    | nil =>
      rw [regex,ends_seq,ends_word,length?]
      cases after : afterWord? word (text.drop start) with
      | none => rfl
      | some rest =>
        obtain ⟨spelt,shape,spells⟩ := afterWord?_eq_some_iff.mp after
        have inWord : endsInWord (text.take (start + word.length)) = true := by
          rw [List.take_add,shape,← spells,length_upper,List.take_left]
          refine endsInWord_of_letters _ ?_ (letters_of_spells capitals spells)
          rintro rfl
          exact nonempty spells.symm
        simp only [Option.map_some,Option.toList_some,List.flatMap_singleton,ends]
        rw [inWord,drop_of_afterWord? after]
        cases startsInWord rest <;> rfl
    | cons next words =>
      rw [regex,ends_word_gaps_seq word (lettered_regex keywords.tail),behindWord?,length?]
      cases after : afterWord? word (text.drop start) with
      | none => rfl
      | some rest =>
        obtain ⟨gap,behind,rfl,gaps,stop⟩ := exists_run isGap rest
        dsimp only [Option.bind_some]
        rw [takeWhile_run gaps stop,dropWhile_run gaps stop]
        cases gap with
        | nil => rfl
        | cons c gap =>
          have there : text.drop (start + word.length + (c :: gap).length) = behind := by
            rw [← List.drop_drop,drop_of_afterWord? after,List.drop_left]
          dsimp only
          rw [Option.toList_some,List.flatMap_singleton,ih keywords.tail,there]
          cases length? (next :: words) behind with
          | none => rfl
          | some n => simp [Nat.add_assoc]

end Phrase

namespace Regex
open Phrase

/-- Whether an expression matches where a pattern does, and as much. -/
def Reads (regex : Regex) (pattern : Pattern) : Prop :=
  ∀ text start, regex.end? text start = (pattern.matchAt? text start).map (start + ·)

/-- An expression of alternatives: what its phrases match, the first phrase first. -/
def Joins (regex : Regex) (phrases : List Phrase) : Prop :=
  ∀ text start, regex.ends text start =
    phrases.flatMap fun phrase => (Phrase.regex phrase).ends text start

theorem end?_wordEdge_seq {regex : Regex} (lettered : regex.Lettered) (text : Text) (start : Nat) :
    (seq wordEdge regex).end? text start =
      if endsInWord (text.take start) then none else regex.end? text start := by
  rw [end?_seq,ends]
  cases starts : startsInWord (text.drop start) with
  | false =>
    have nothing : regex.end? text start = none := by
      unfold end?
      rw [lettered text start starts]
      rfl
    rw [nothing,ite_self]
    split <;> simp [nothing]
  | true => cases endsInWord (text.take start) <;> simp

theorem end?_phrase {phrase : Phrase} (keywords : Keywords phrase) (text : Text) (start : Nat) :
    (Phrase.regex phrase).end? text start =
      (phrase.length? (text.drop start)).map (start + ·) := by
  unfold end?
  rw [ends_regex keywords]
  cases phrase.length? (text.drop start) <;> rfl

theorem end?_phrase_edge {phrase : Phrase} (keywords : Keywords phrase) (text : Text)
    (start : Nat) : (seq wordEdge (Phrase.regex phrase)).end? text start =
      (phrase.matchAt? text start).map (start + ·) := by
  rw [end?_wordEdge_seq (lettered_regex keywords),end?_phrase keywords,Phrase.matchAt?]
  split <;> rfl

theorem Joins.lettered {regex : Regex} {phrases : List Phrase} (joins : regex.Joins phrases)
    (keywords : ∀ phrase ∈ phrases, Keywords phrase) : regex.Lettered := by
  intro text start stop
  rw [joins,List.flatMap_eq_nil_iff]
  intro phrase member
  exact lettered_regex (keywords phrase member) text start stop

theorem Joins.reads {regex : Regex} {phrases : List Phrase} (joins : regex.Joins phrases)
    (keywords : ∀ phrase ∈ phrases, Keywords phrase) :
    (seq wordEdge regex).Reads (.anyOf phrases) := by
  intro text start
  have found : regex.end? text start =
      (phrases.findSome? (·.length? (text.drop start))).map (start + ·) := by
    unfold end?
    rw [joins,List.flatMap_congr fun phrase member => ends_regex (keywords phrase member),
      List.head?_flatMap,List.map_findSome?]
    simp only [Option.head?_toList]
    rfl
  rw [end?_wordEdge_seq (joins.lettered keywords),found,Pattern.matchAt?,Pattern.length?]
  split <;> rfl

theorem joins_singleton (phrase : Phrase) : (Phrase.regex phrase).Joins [phrase] := by
  intro text start
  rw [List.flatMap_singleton]

theorem joins_words (words : List Text) :
    (seq (oneOf (words.map word)) wordEdge).Joins (words.map fun word => [word]) := by
  intro text start
  rw [ends_seq,ends_oneOf,List.flatMap_map,List.flatMap_map,List.flatMap_assoc]
  rfl

theorem joins_optional (skipped last : Text) :
    (seq (either (seq (word skipped) gaps) empty) (seq (word last) wordEdge)).Joins
      [[skipped,last],[last]] := by
  intro text start
  rw [ends_seq,ends_either,List.flatMap_append,ends_seq (word skipped),List.flatMap_assoc,
    ends_empty,List.flatMap_singleton,List.flatMap_cons,List.flatMap_singleton]
  rfl

theorem Joins.cons {regex : Regex} {phrases : List Phrase} (joins : regex.Joins phrases)
    (keywords : ∀ phrase ∈ phrases, Keywords phrase) (letters : Text) :
    (seq (word letters) (seq gaps regex)).Joins (phrases.map (letters :: ·)) := by
  intro text start
  rw [ends_word_gaps_seq letters (joins.lettered keywords),List.flatMap_map]
  have each : ∀ phrase ∈ phrases, (Phrase.regex (letters :: phrase)).ends text start =
      (behindWord? letters text start).toList.flatMap ((Phrase.regex phrase).ends text) := by
    intro phrase member
    obtain ⟨next,words,rfl⟩ := List.exists_cons_of_ne_nil (keywords phrase member).1
    rw [Phrase.regex,ends_word_gaps_seq letters (lettered_regex (keywords _ member))]
  rw [List.flatMap_congr each]
  cases behindWord? letters text start with
  | none => simp
  | some later =>
    simp only [Option.toList_some,List.flatMap_singleton]
    exact joins text later

theorem findSome?_phrase {phrase : Phrase} (text : Text) (cursor : Nat)
    (nothing : phrase.length? [] = none) :
    (List.range' cursor ((text.drop cursor).length + 1)).findSome?
        (fun start => (phrase.matchAt? text start).map (start + ·)) =
      phrase.firstEnd? (endsInWord (text.take cursor)) cursor (text.drop cursor) := by
  induction left : (text.drop cursor).length generalizing cursor with
  | zero =>
    have empty := List.length_eq_zero_iff.mp left
    rw [empty]
    simp [firstEnd?,Phrase.matchAt?,empty,nothing]
  | succ n ih =>
    rw [List.length_drop] at left
    have inside : cursor < text.length := by omega
    rw [List.range'_succ,List.findSome?_cons,List.drop_eq_getElem_cons inside,firstEnd?,
      ← List.drop_eq_getElem_cons inside,← Pattern.endsInWord_take_succ inside,
      ← ih (cursor + 1) (by rw [List.length_drop]; omega),← Phrase.matchAt?]
    cases phrase.matchAt? text cursor <;> rfl

theorem firstEnd?_shift (phrase : Phrase) (inWord : Bool) (front pos : Nat) (text : Text) :
    phrase.firstEnd? inWord (front + pos) text =
      (phrase.firstEnd? inWord pos text).map (front + ·) := by
  induction text generalizing inWord pos with
  | nil => rfl
  | cons c rest ih =>
    rw [firstEnd?,firstEnd?]
    split
    · simp [Nat.add_assoc]
    · exact ih _ (pos + 1)

theorem reads_span {opening closing : Phrase} (openingWords : Keywords opening)
    (closingWords : Keywords closing) (nothing : closing.length? [] = none) :
    (seq wordEdge (seq (Phrase.regex opening) (seq (lazy fun _ => true)
      (seq wordEdge (Phrase.regex closing))))).Reads (.span opening closing) := by
  intro text start
  rw [end?_wordEdge_seq ((lettered_regex openingWords).seq _),end?_seq,ends_regex openingWords,
    Pattern.matchAt?_span_eq]
  cases opened : opening.matchAt? text start with
  | none =>
    unfold Phrase.matchAt? at opened
    split
    · rfl
    · next apart =>
      rw [if_neg apart] at opened
      rw [opened]
      rfl
  | some n =>
    have inWord := Phrase.endsInWord_of_matchAt? openingWords opened
    obtain ⟨apart,begins⟩ := matchAt?_eq_some_iff.mp opened
    rw [if_neg (by simp [apart]),length?_eq_some_iff.mpr begins]
    simp only [Option.map_some,Option.toList_some,List.findSome?_singleton,Option.bind_some]
    rw [end?_lazy (fun _ => rfl),← firstEnd?_shift,← inWord,← findSome?_phrase text _ nothing]
    have closes := funext (end?_phrase_edge closingWords text)
    rw [closes]

/-- A search for the expression that reads a pattern finds the occurrences of the pattern. -/
theorem Reads.found_eq {regex : Regex} {pattern : Pattern} (reads : regex.Reads pattern)
    (bounded : pattern.Bounded) (text : Text) : regex.found text = pattern.spans text := by
  suffices behind : ∀ left cursor, text.length - cursor = left →
      regex.foundFrom text cursor = pattern.spansBehind text cursor by
    exact behind _ 0 rfl
  intro left
  induction left using Nat.strong_induction_on with
  | _ left ih =>
    intro cursor size
    rcases Nat.lt_or_ge cursor text.length with inside | beyond
    · cases matched : pattern.matchAt? text cursor with
      | none =>
        rw [foundFrom_missing (by rw [reads,matched]; rfl),
          Pattern.spansBehind_none inside matched]
        exact ih _ (by omega) _ rfl
      | some length =>
        obtain ⟨positive,-⟩ := bounded _ _ _ matched
        have ends : regex.end? text cursor = some (cursor + length) := by
          rw [reads,matched]
          rfl
        rw [foundFrom_match ends (by omega) inside,
          Pattern.spansBehind_match inside positive matched,ih _ (by omega) _ rfl]
    · rw [foundFrom_beyond beyond,Pattern.spansBehind_nil pattern beyond]

end Regex

namespace Rule
open Regex Phrase

theorem reads {rule : Rule} (member : rule ∈ all) : rule.code.regex.Reads rule.pattern := by
  have wellFormed := wellFormed member
  simp only [all,List.mem_cons,List.not_mem_nil,or_false] at member
  rcases member with rfl | rfl | rfl | rfl | rfl
  · exact (joins_singleton _).reads wellFormed.keywords
  · have objects := joins_words (droppedObjects.map String.toList)
    exact (objects.cons (by decide) "DROP".toList).reads wellFormed.keywords
  · have words := joins_words ["BEGIN".toList,"COMMIT".toList,"ROLLBACK".toList]
    exact words.reads wellFormed.keywords
  · have optional := joins_optional "NOT".toList "EXISTS".toList
    exact (optional.cons (by decide) "IF".toList).reads wellFormed.keywords
  · exact reads_span wellFormed.openingWords wellFormed.closingWords rfl

/-- A rule is found where a search for its expression finds matches, up to the end of the last match
of the closing expression. -/
theorem offsets_eq_found {rule : Rule} (member : rule ∈ all) (text : Text) :
    rule.pattern.reach text = (match rule.code.tail? with
      | none => text.length
      | some tail => ((tail.found text).getLast?.map Span.stop).getD 0) ∧
    rule.offsets text =
      (rule.code.regex.found (text.take (rule.pattern.reach text))).map Span.start := by
  have wellFormed := wellFormed member
  refine ⟨?_,?_⟩
  · simp only [all,List.mem_cons,List.not_mem_nil,or_false] at member
    rcases member with rfl | rfl | rfl | rfl | rfl
    case inr.inr.inr.inr =>
      have closing := Pattern.alternatives_closing wellFormed
      have reads := (joins_singleton _).reads closing.keywords
      have found := reads.found_eq (Pattern.bounded_anyOf closing.keywords) text
      exact congrArg (fun spans => (spans.getLast?.map Span.stop).getD 0) found.symm
    all_goals rfl
  · have bounded := Pattern.bounded_of_wellFormed wellFormed
    rw [(reads member).found_eq bounded]
    rfl

end Rule
end SchemaLint
