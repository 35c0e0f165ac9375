import SchemaLint.Proofs.Rule.Starts

/-! What a search finds, told without the search: the leftmost occurrences, one behind the other. The
text within reach and the whole text have the same ones.
-/
namespace SchemaLint
open Text

theorem Span.absent_iff {stands : Span → Prop} {start : Nat} {found : Option Nat}
    (told : ∀ stop, stands ⟨start,stop⟩ ↔ ∃ length, found = some length ∧ stop = start + length) :
    (∀ stop, ¬ stands ⟨start,stop⟩) ↔ found = none := by
  simp only [told]
  rw [Option.eq_none_iff_forall_ne_some]
  constructor
  · intro absent length same
    exact absent (start + length) ⟨length,same,rfl⟩
  · intro absent stop present
    obtain ⟨length,same,-⟩ := present
    exact absent length same

namespace Phrase

def Occupies (phrase : Phrase) (text : Text) (place : Span) : Prop :=
  ∃ length, place.stop = place.start + length ∧
    endsInWord (text.take place.start) = false ∧ Begins phrase (text.drop place.start) length

theorem occupies_iff {phrase : Phrase} {text : Text} {place : Span} :
    phrase.Occupies text place ↔
      ∃ length, phrase.matchAt? text place.start = some length ∧
        place.stop = place.start + length := by
  unfold Occupies
  simp only [matchAt?_eq_some_iff]
  constructor
  · intro occupies
    obtain ⟨length,size,stands⟩ := occupies
    exact ⟨length,stands,size⟩
  · intro found
    obtain ⟨length,stands,size⟩ := found
    exact ⟨length,size,stands⟩

theorem absent_iff {phrase : Phrase} {text : Text} {start : Nat} :
    (∀ stop, ¬ phrase.Occupies text ⟨start,stop⟩) ↔ phrase.matchAt? text start = none :=
  Span.absent_iff fun _ => occupies_iff

end Phrase

namespace Pattern
open Phrase

/-- Whether a pattern occurs at a place of a text. Of several phrases the first one that stands there
counts, and a span ends with the first closing phrase behind its opening one. -/
def Occupies : Pattern → Text → Span → Prop
  | anyOf phrases, text, place =>
    ∃ front phrase back, phrases = front ++ phrase :: back ∧ phrase.Occupies text place ∧
      ∀ other ∈ front, ∀ stop, ¬ other.Occupies text ⟨place.start,stop⟩
  | span opening closing, text, place =>
    ∃ opened closed, opening.Occupies text ⟨place.start,opened⟩ ∧ opened ≤ closed ∧
      closing.Occupies text ⟨closed,place.stop⟩ ∧
      ∀ earlier stop, opened ≤ earlier → earlier < closed → ¬ closing.Occupies text ⟨earlier,stop⟩

/-- Whether places are those of the leftmost occurrences from a cursor on, of which each lies behind
the one before it. -/
inductive Leftmost (pattern : Pattern) (text : Text) : Nat → List Span → Prop
  | none {cursor} (nowhere : ∀ place, cursor ≤ place.start → ¬ pattern.Occupies text place) :
      Leftmost pattern text cursor []
  | cons {cursor place places} (behind : cursor ≤ place.start)
      (occupies : pattern.Occupies text place)
      (first : ∀ other, cursor ≤ other.start → other.start < place.start →
        ¬ pattern.Occupies text other)
      (rest : Leftmost pattern text place.stop places) :
      Leftmost pattern text cursor (place :: places)

theorem occupies_anyOf_iff {phrases : List Phrase} {text : Text} {place : Span} :
    (anyOf phrases).Occupies text place ↔
      ∃ length, (anyOf phrases).matchAt? text place.start = some length ∧
        place.stop = place.start + length := by
  simp only [matchAt?_anyOf,List.findSome?_eq_some_iff,Occupies]
  constructor
  · intro occurs
    obtain ⟨front,phrase,back,split,occupies,earlier⟩ := occurs
    obtain ⟨length,found,size⟩ := Phrase.occupies_iff.mp occupies
    refine ⟨length,⟨front,phrase,back,split,found,?_⟩,size⟩
    intro other member
    exact Phrase.absent_iff.mp (earlier other member)
  · intro matched
    obtain ⟨length,⟨front,phrase,back,split,found,earlier⟩,size⟩ := matched
    refine ⟨front,phrase,back,split,Phrase.occupies_iff.mpr ⟨length,found,size⟩,?_⟩
    intro other member
    exact Phrase.absent_iff.mpr (earlier other member)

theorem occupies_span_iff {opening closing : Phrase} (bracket : Bracket opening closing)
    {text : Text} {place : Span} :
    (span opening closing).Occupies text place ↔
      ∃ length, (span opening closing).matchAt? text place.start = some length ∧
        place.stop = place.start + length := by
  simp only [matchAt?_span_eq,Option.bind_eq_some_iff,Occupies]
  constructor
  · intro occurs
    obtain ⟨opened,closed,opens,behind,closes,first⟩ := occurs
    obtain ⟨n,found,openSize⟩ := Phrase.occupies_iff.mp opens
    obtain ⟨k,ended,closeSize⟩ := Phrase.occupies_iff.mp closes
    dsimp only at openSize found ended closeSize
    subst openSize
    refine ⟨place.stop - place.start,⟨n,found,?_⟩,by omega⟩
    rw [← endsInWord_of_matchAt? bracket.openingWords found,
      firstEnd?_eq_some_iff bracket.closingWords]
    refine ⟨closed,k,behind,ended,?_,by omega⟩
    intro earlier after before
    apply Phrase.absent_iff.mp
    intro stop
    exact first earlier stop after before
  · intro matched
    obtain ⟨length,⟨n,found,ended⟩,size⟩ := matched
    rw [← endsInWord_of_matchAt? bracket.openingWords found,
      firstEnd?_eq_some_iff bracket.closingWords] at ended
    obtain ⟨closed,k,behind,ended,first,reached⟩ := ended
    refine ⟨place.start + n,closed,Phrase.occupies_iff.mpr ⟨n,found,rfl⟩,behind,
      Phrase.occupies_iff.mpr ⟨k,ended,?_⟩,?_⟩
    · dsimp only
      omega
    · intro earlier stop after before
      exact Phrase.absent_iff.mpr (first earlier after before) stop

theorem occupies_iff {pattern : Pattern} (wellFormed : pattern.WellFormed) {text : Text}
    {place : Span} : pattern.Occupies text place ↔
      ∃ length, pattern.matchAt? text place.start = some length ∧
        place.stop = place.start + length := by
  cases pattern with
  | anyOf phrases => exact occupies_anyOf_iff
  | span opening closing => exact occupies_span_iff wellFormed

theorem absent_iff {pattern : Pattern} (wellFormed : pattern.WellFormed) {text : Text}
    {start : Nat} :
    (∀ stop, ¬ pattern.Occupies text ⟨start,stop⟩) ↔ pattern.matchAt? text start = none :=
  Span.absent_iff fun _ => occupies_iff wellFormed

theorem spansBehind_skip {pattern : Pattern} {text : Text} {cursor start : Nat}
    (inside : start < text.length) (behind : cursor ≤ start)
    (missing : ∀ offset, cursor ≤ offset → offset < start → pattern.matchAt? text offset = none) :
    pattern.spansBehind text cursor = pattern.spansBehind text start := by
  induction start,behind using Nat.le_induction with
  | base => rfl
  | succ start behind ih =>
    rw [ih (by omega) fun offset after before => missing offset after (by omega)]
    exact spansBehind_none (by omega) (missing start behind (by omega))

theorem eq_of_leftmost {pattern : Pattern} (wellFormed : pattern.WellFormed) {text : Text}
    {cursor : Nat} {places : List Span} (leftmost : pattern.Leftmost text cursor places) :
    places = pattern.spansBehind text cursor := by
  induction leftmost with
  | none nowhere =>
    symm
    apply spansBehind_of_missing
    intro start behind
    exact (absent_iff wellFormed).mp fun stop => nowhere ⟨start,stop⟩ behind
  | cons behind occupies first rest ih =>
    obtain ⟨length,found,size⟩ := (occupies_iff wellFormed).mp occupies
    obtain ⟨positive,bound⟩ := bounded_of_wellFormed wellFormed _ _ _ found
    rw [spansBehind_skip (by omega) behind,spansBehind_match (by omega) positive found,← size,ih]
    intro offset after before
    exact (absent_iff wellFormed).mp fun stop => first ⟨offset,stop⟩ after before

theorem spansBehind_leftmost {pattern : Pattern} (wellFormed : pattern.WellFormed) (text : Text)
    (cursor : Nat) : pattern.Leftmost text cursor (pattern.spansBehind text cursor) := by
  classical
  induction left : text.length - cursor using Nat.strong_induction_on generalizing cursor with
  | _ n ih =>
    by_cases present : ∃ start, cursor ≤ start ∧ ∃ length, pattern.matchAt? text start = some length
    · obtain ⟨behind,length,found⟩ := Nat.find_spec present
      have missing (offset : Nat) (after : cursor ≤ offset) (before : offset < Nat.find present) :
          pattern.matchAt? text offset = none := by
        by_contra other
        exact Nat.find_min present before ⟨after,Option.ne_none_iff_exists'.mp other⟩
      obtain ⟨positive,bound⟩ := bounded_of_wellFormed wellFormed _ _ _ found
      have rest := ih _ (by omega) (Nat.find present + length) rfl
      rw [spansBehind_skip (by omega) behind missing,spansBehind_match (by omega) positive found]
      refine .cons behind ((occupies_iff wellFormed).mpr ⟨length,found,rfl⟩) ?_ rest
      intro other after before
      exact (absent_iff wellFormed).mpr (missing other.start after before) other.stop
    · have missing (start : Nat) (behind : cursor ≤ start) : pattern.matchAt? text start = none := by
        by_contra other
        exact present ⟨start,behind,Option.ne_none_iff_exists'.mp other⟩
      rw [spansBehind_of_missing missing]
      apply Leftmost.none
      intro place behind
      exact (absent_iff wellFormed).mpr (missing place.start behind) place.stop

/-- The search finds the leftmost occurrences and nothing else. -/
theorem leftmost_iff {pattern : Pattern} (wellFormed : pattern.WellFormed) (text : Text)
    (places : List Span) : pattern.Leftmost text 0 places ↔ places = pattern.spans text := by
  rw [spans_eq]
  constructor
  · intro leftmost
    exact eq_of_leftmost wellFormed leftmost
  · intro found
    rw [found]
    exact spansBehind_leftmost wellFormed text 0

/-- Whether an offset is where a search of a text may end: the end of the last closing phrase, the
start of the text if there is none, and the end of the text for a pattern that has no such phrase. -/
def EndsAt (pattern : Pattern) (text : Text) (stop : Nat) : Prop :=
  match pattern.closing? with
  | none => stop = text.length
  | some closing => (∀ place, closing.Occupies text place → place.stop ≤ stop) ∧
      if stop = 0 then ∀ place, ¬ closing.Occupies text place
      else ∃ place, closing.Occupies text place ∧ place.stop = stop

theorem reach_endsAt {pattern : Pattern} (wellFormed : pattern.WellFormed) (text : Text) :
    pattern.EndsAt text (pattern.reach text) := by
  cases pattern with
  | anyOf phrases => exact rfl
  | span opening closing =>
    obtain ⟨bound,last,nothing⟩ := reach_span wellFormed text
    refine ⟨?_,?_⟩
    · intro place closes
      obtain ⟨length,found,size⟩ := Phrase.occupies_iff.mp closes
      rw [size]
      exact bound place.start length found
    · by_cases present : ∃ start length, closing.matchAt? text start = some length
      · obtain ⟨start,length,found,reached⟩ := last present
        obtain ⟨within,positive⟩ := start_lt_of_matchAt? wellFormed.closingWords found
        rw [if_neg (by omega)]
        exact ⟨⟨start,start + length⟩,Phrase.occupies_iff.mpr ⟨length,found,rfl⟩,reached⟩
      · rw [if_pos (nothing present)]
        intro place closes
        obtain ⟨length,found,-⟩ := Phrase.occupies_iff.mp closes
        exact present ⟨place.start,length,found⟩

end Pattern

namespace Rule

/-- The text up to where the search ends has the occurrences of the whole text, no others and none
less. -/
theorem spans_upTo_reach {rule : Rule} (member : rule ∈ all) (text : Text) :
    rule.pattern.EndsAt text (rule.pattern.reach text) ∧
    (if rule.pattern.reach text = 0 then []
      else rule.pattern.spans (text.take (rule.pattern.reach text))) = rule.pattern.spans text ∧
    rule.offsets text = (rule.pattern.spans text).map Span.start ∧
    ∀ other places, rule.pattern.Leftmost other 0 places ↔ places = rule.pattern.spans other := by
  have same := Pattern.spansInReach_eq (wellFormed member) text
  refine ⟨Pattern.reach_endsAt (wellFormed member) text,?_,?_,Pattern.leftmost_iff (wellFormed member)⟩
  · rw [← same]
    unfold Pattern.spansInReach
    split
    · rename_i nowhere
      rw [nowhere]
      rfl
    · rfl
  · unfold offsets
    rw [same]

theorem spans_upTo_reach_columns :
    let text := "alter table t drop column a drop columns".toList
    let stop := alterDrop.pattern.reach text
    alterDrop ∈ all ∧
      (if stop = 0 then [] else alterDrop.pattern.spans (text.take stop)) = [⟨0,25⟩] := by
  intro text stop
  have member : alterDrop ∈ all := by simp [all]
  refine ⟨member,?_⟩
  rw [(spans_upTo_reach member text).2.1]
  decide +kernel

end Rule
end SchemaLint
