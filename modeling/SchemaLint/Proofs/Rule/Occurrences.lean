import SchemaLint.Proofs.Rule.Search
import SchemaLint.Proofs.Rule.Parts
import Mathlib.Data.Nat.Find

/-! Where the occurrences of a pattern start. Phrases that cannot start inside one another are all
found. A span starts at an opening phrase with a closing one behind it, unless the nearest opening
phrase in front of it is still open there. What lies behind the last closing phrase changes nothing.
-/
namespace SchemaLint.Pattern
open Text Phrase

structure Alternatives (phrases : List Phrase) : Prop where
  keywords : ∀ phrase ∈ phrases, Keywords phrase
  apart : ∀ phrase ∈ phrases, ∀ other ∈ phrases, Avoids other phrase.tail

/-- An opening and a closing phrase, neither of which starts where or within the other does. -/
structure Bracket (opening closing : Phrase) : Prop where
  openingWords : Keywords opening
  closingWords : Keywords closing
  outside : Avoids closing opening
  before : Avoids opening closing
  single : Avoids closing closing.tail

theorem matchAt?_anyOf (phrases : List Phrase) (text : Text) (start : Nat) :
    (anyOf phrases).matchAt? text start = phrases.findSome? (·.matchAt? text start) := by
  unfold matchAt? Phrase.matchAt?
  cases endsInWord (text.take start) with
  | false => rfl
  | true => exact (List.findSome?_eq_none_iff.mpr fun _ _ => rfl).symm

theorem bounded_anyOf {phrases : List Phrase} (keywords : ∀ phrase ∈ phrases, Keywords phrase) :
    (anyOf phrases).Bounded := by
  intro text start length found
  rw [matchAt?_anyOf] at found
  obtain ⟨phrase,member,found⟩ := List.exists_of_findSome?_eq_some found
  obtain ⟨bound,positive⟩ := start_lt_of_matchAt? (keywords phrase member) found
  exact ⟨positive,bound⟩

theorem matchAt?_anyOf_iff {phrases : List Phrase} (text : Text) (start : Nat) :
    (∃ length, (anyOf phrases).matchAt? text start = some length) ↔
      ∃ phrase ∈ phrases, ∃ length, phrase.matchAt? text start = some length := by
  simp only [matchAt?_anyOf,← Option.isSome_iff_exists,List.findSome?_isSome_iff]

/-- Where phrases cannot overlap, all of them are found. -/
theorem mem_starts_anyOf {phrases : List Phrase} (alternatives : Alternatives phrases) (text : Text)
    (offset : Nat) : offset ∈ ((anyOf phrases).spans text).map Span.start ↔
      ∃ phrase ∈ phrases, ∃ length, phrase.matchAt? text offset = some length := by
  have bounded := bounded_anyOf alternatives.keywords
  rw [spans_eq,mem_starts_iff bounded text (fun _ => True)
    (fun offset => ∃ length, (anyOf phrases).matchAt? text offset = some length)
    ?_ ?_ trivial,matchAt?_anyOf_iff]
  · constructor
    · rintro ⟨-,-,found⟩
      exact found
    · intro found
      obtain ⟨length,matched⟩ := (matchAt?_anyOf_iff text offset).mpr found
      have within := bounded _ _ _ matched
      exact ⟨Nat.zero_le _,by omega,found⟩
  · intro cursor length _ matched
    refine ⟨⟨length,matched⟩,?_,trivial⟩
    intro inside behind before found
    rw [matchAt?_anyOf] at matched
    obtain ⟨outer,member,matched⟩ := List.exists_of_findSome?_eq_some matched
    obtain ⟨inner,other,n,found⟩ := (matchAt?_anyOf_iff text inside).mp found
    have missing := matchAt?_inside (alternatives.keywords outer member)
      (alternatives.keywords inner other) (alternatives.apart outer member inner other)
      matched behind before
    rw [missing] at found
    cases found
  · intro cursor _ missing
    refine ⟨?_,trivial⟩
    rintro ⟨length,found⟩
    rw [missing] at found
    cases found

theorem firstEnd?_eq_some_iff {phrase : Phrase} (keywords : Keywords phrase) {text : Text}
    {cursor base stop : Nat} :
    phrase.firstEnd? (endsInWord (text.take cursor)) base (text.drop cursor) = some stop ↔
      ∃ later length, cursor ≤ later ∧ phrase.matchAt? text later = some length ∧
        (∀ offset, cursor ≤ offset → offset < later → phrase.matchAt? text offset = none) ∧
        stop + cursor = base + later + length := by
  induction left : text.length - cursor generalizing cursor base with
  | zero =>
    rw [List.drop_of_length_le (by omega)]
    constructor
    · intro found
      cases found
    · rintro ⟨later,length,behind,found,-⟩
      have within := start_lt_of_matchAt? keywords found
      omega
  | succ n ih =>
    have inside : cursor < text.length := by omega
    have here : (if endsInWord (text.take cursor) then none else phrase.length? (text.drop cursor)) =
        phrase.matchAt? text cursor := rfl
    rw [List.drop_eq_getElem_cons inside,firstEnd?,← List.drop_eq_getElem_cons inside,here]
    cases matched : phrase.matchAt? text cursor with
    | some n =>
      constructor
      · intro found
        cases found
        exact ⟨cursor,n,le_rfl,matched,fun offset behind before => by omega,by omega⟩
      · rintro ⟨later,length,behind,found,missing,reached⟩
        rcases Nat.eq_or_lt_of_le behind with rfl | after
        · rw [matched] at found
          cases found
          exact congrArg some (by omega)
        · rw [missing cursor le_rfl after] at matched
          cases matched
    | none =>
      dsimp only
      rw [← endsInWord_take_succ inside,ih (by omega)]
      constructor
      · rintro ⟨later,length,behind,found,missing,reached⟩
        refine ⟨later,length,by omega,found,fun offset first before => ?_,by omega⟩
        rcases Nat.eq_or_lt_of_le first with rfl | after
        · exact matched
        · exact missing offset after before
      · rintro ⟨later,length,behind,found,missing,reached⟩
        have different : cursor ≠ later := by
          rintro rfl
          rw [matched] at found
          cases found
        exact ⟨later,length,by omega,found,fun offset first before => missing offset (by omega) before,
          by omega⟩

section Bracket
variable {opening closing : Phrase}

theorem matchAt?_span_eq (opening closing : Phrase) (text : Text) (start : Nat) :
    (span opening closing).matchAt? text start =
      (opening.matchAt? text start).bind fun length =>
        closing.firstEnd? true length (text.drop (start + length)) := by
  unfold matchAt? Phrase.matchAt?
  cases endsInWord (text.take start) with
  | true => rfl
  | false =>
    simp only [Bool.false_eq_true,if_false,Pattern.length?]
    cases opening.length? (text.drop start) with
    | none => rfl
    | some n => simp [List.drop_drop]

/-- A closing phrase behind the start of an opening one stands behind its end. -/
theorem Bracket.end_le (bracket : Bracket opening closing) {text : Text} {start later n k : Nat}
    (opened : opening.matchAt? text start = some n) (behind : start < later)
    (closed : closing.matchAt? text later = some k) : start + n ≤ later := by
  by_contra inside
  have missing := matchAt?_inside bracket.openingWords bracket.closingWords bracket.outside.tail
    opened behind (by omega)
  rw [missing] at closed
  cases closed

/-- A span reaches from an opening phrase to the first closing one behind it. -/
theorem matchAt?_span_iff (bracket : Bracket opening closing) {text : Text} {start length : Nat} :
    (span opening closing).matchAt? text start = some length ↔
      (∃ n, opening.matchAt? text start = some n) ∧
        ∃ later n, start < later ∧ closing.matchAt? text later = some n ∧
          (∀ offset, start < offset → offset < later → closing.matchAt? text offset = none) ∧
          start + length = later + n := by
  rw [matchAt?_span_eq,Option.bind_eq_some_iff]
  constructor
  · rintro ⟨n,opened,closed⟩
    obtain ⟨-,positive⟩ := start_lt_of_matchAt? bracket.openingWords opened
    rw [← endsInWord_of_matchAt? bracket.openingWords opened,
      firstEnd?_eq_some_iff bracket.closingWords] at closed
    obtain ⟨later,k,behind,found,missing,reached⟩ := closed
    refine ⟨⟨n,opened⟩,later,k,by omega,found,fun offset after before => ?_,by omega⟩
    rcases Nat.lt_or_ge offset (start + n) with inside | outside
    · exact matchAt?_inside bracket.openingWords bracket.closingWords bracket.outside.tail opened
        after inside
    · exact missing offset outside before
  · rintro ⟨⟨n,opened⟩,later,k,behind,found,missing,reached⟩
    have outside := bracket.end_le opened behind found
    refine ⟨n,opened,?_⟩
    rw [← endsInWord_of_matchAt? bracket.openingWords opened,
      firstEnd?_eq_some_iff bracket.closingWords]
    obtain ⟨-,positive⟩ := start_lt_of_matchAt? bracket.openingWords opened
    exact ⟨later,k,outside,found,fun offset after before => missing offset (by omega) before,
      by omega⟩

theorem bounded_span (bracket : Bracket opening closing) : (span opening closing).Bounded := by
  intro text start length found
  obtain ⟨-,later,n,behind,closed,-,reached⟩ := (matchAt?_span_iff bracket).mp found
  have within := start_lt_of_matchAt? bracket.closingWords closed
  omega

theorem exists_matchAt?_span (bracket : Bracket opening closing) {text : Text} {start later : Nat}
    (opened : opening.StandsAt text start) (behind : start < later)
    (closed : closing.StandsAt text later) :
    ∃ length, (span opening closing).matchAt? text start = some length := by
  classical
  have present : ∃ offset, start < offset ∧ closing.StandsAt text offset := ⟨later,behind,closed⟩
  obtain ⟨after,stands⟩ := Nat.find_spec present
  obtain ⟨n,found⟩ := (standsAt_iff bracket.closingWords text _).mp stands
  refine ⟨Nat.find present + n - start,(matchAt?_span_iff bracket).mpr
    ⟨(standsAt_iff bracket.openingWords text start).mp opened,Nat.find present,n,after,found,?_,
      by omega⟩⟩
  intro offset first before
  by_contra other
  obtain ⟨k,other⟩ := Option.ne_none_iff_exists'.mp other
  exact Nat.find_min present before ⟨first,(standsAt_iff bracket.closingWords text _).mpr ⟨k,other⟩⟩

/-- Whether an opening phrase stands in front of an offset with no closing one between them. -/
def OpenAt (opening closing : Phrase) (text : Text) (offset : Nat) : Prop :=
  ∃ previous < offset, opening.StandsAt text previous ∧
    ∀ between, previous < between → between < offset → ¬ closing.StandsAt text between

/-- Whether a span starts at an offset: an opening phrase there, which is the first one that is open,
and a closing one behind it. -/
def SpanAt (opening closing : Phrase) (text : Text) (start : Nat) : Prop :=
  opening.StandsAt text start ∧ (∃ later, start < later ∧ closing.StandsAt text later) ∧
    ¬ OpenAt opening closing text start

theorem standsAt_inside {outer inner : Phrase} {text : Text} {start length offset : Nat}
    (outerWords : Keywords outer) (innerWords : Keywords inner) (avoids : Avoids inner outer)
    (found : outer.matchAt? text start = some length) (behind : start ≤ offset)
    (before : offset < start + length) : ¬ inner.StandsAt text offset := by
  rw [standsAt_iff innerWords]
  rintro ⟨n,stands⟩
  rcases Nat.eq_or_lt_of_le behind with rfl | after
  · rw [matchAt?_same outerWords innerWords avoids found] at stands
    cases stands
  · rw [matchAt?_inside outerWords innerWords avoids.tail found after before] at stands
    cases stands

/-- A cursor that stands behind an open phrase only where nothing closes it any more. -/
def Idle (opening closing : Phrase) (text : Text) (cursor : Nat) : Prop :=
  OpenAt opening closing text cursor → ∀ later, cursor ≤ later → ¬ closing.StandsAt text later

/-- The spans that a search finds are those at the first open phrases, since its cursor is idle. -/
theorem mem_starts_span (bracket : Bracket opening closing) (text : Text) (offset : Nat) :
    offset ∈ ((span opening closing).spans text).map Span.start ↔
      SpanAt opening closing text offset := by
  rw [spans_eq,mem_starts_iff (bounded_span bracket) text (Idle opening closing text)
    (SpanAt opening closing text)]
  · constructor
    · rintro ⟨-,-,spanAt⟩
      exact spanAt
    · intro spanAt
      exact ⟨Nat.zero_le _,lt_of_standsAt bracket.openingWords spanAt.1,spanAt⟩
  · intro cursor length start matched
    obtain ⟨opened,later,n,behind,found,missing,reached⟩ := (matchAt?_span_iff bracket).mp matched
    have opened := (standsAt_iff bracket.openingWords text cursor).mpr opened
    have closed := (standsAt_iff bracket.closingWords text later).mpr ⟨n,found⟩
    obtain ⟨-,positive⟩ := start_lt_of_matchAt? bracket.closingWords found
    refine ⟨⟨opened,⟨later,behind,closed⟩,fun isOpen => start isOpen later behind.le closed⟩,?_,?_⟩
    · rintro inside after before ⟨stands,-,first⟩
      rcases Nat.lt_or_ge later inside with beyond | upTo
      · exact standsAt_inside bracket.closingWords bracket.openingWords bracket.before found
          beyond.le (by omega) stands
      · refine first ⟨cursor,after,opened,fun between above below stands => ?_⟩
        obtain ⟨k,other⟩ := (standsAt_iff bracket.closingWords text between).mp stands
        rw [missing between above (by omega)] at other
        cases other
    · rintro ⟨previous,before,stands,unclosed⟩
      rcases Nat.lt_or_ge previous later with ahead | beyond
      · exact absurd closed (unclosed later ahead (by omega))
      · exact absurd stands (standsAt_inside bracket.closingWords bracket.openingWords
          bracket.before found beyond (by omega))
  · intro cursor start missing
    have never : ∀ later, cursor < later → opening.StandsAt text cursor →
        ¬ closing.StandsAt text later := by
      intro later behind opened closed
      obtain ⟨length,found⟩ := exists_matchAt?_span bracket opened behind closed
      rw [missing] at found
      cases found
    refine ⟨?_,?_⟩
    · rintro ⟨opened,⟨later,behind,closed⟩,-⟩
      exact never later behind opened closed
    · rintro ⟨previous,before,opened,unclosed⟩ later behind closed
      rcases Nat.eq_or_lt_of_le (Nat.le_of_lt_succ before) with rfl | ahead
      · exact never later behind opened closed
      · exact start ⟨previous,ahead,opened,fun between above below => unclosed between above
          (by omega)⟩ later (by omega) closed
  · rintro ⟨previous,before,-⟩
    omega

end Bracket
end SchemaLint.Pattern
