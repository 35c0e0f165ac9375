import SchemaLint.Proofs.Rule.Occurrences

/-! The part of a text that a pattern reaches. Every occurrence ends there, and read as if it ended
there the text has the same occurrences.
-/
namespace SchemaLint.Pattern
open Text Phrase
variable {opening closing : Phrase}

theorem spansInReach_anyOf (phrases : List Phrase) (text : Text) :
    (anyOf phrases).spansInReach text = (anyOf phrases).spans text := by
  unfold spansInReach
  rw [show (anyOf phrases).reach text = text.length from rfl,List.take_length]

theorem alternatives_closing (bracket : Bracket opening closing) : Alternatives [closing] where
  keywords := by
    intro phrase member
    rw [List.mem_singleton.mp member]
    exact bracket.closingWords
  apart := by
    intro phrase member other otherMember
    rw [List.mem_singleton.mp member,List.mem_singleton.mp otherMember]
    exact bracket.single

theorem matchAt?_single (phrase : Phrase) (text : Text) (start : Nat) :
    (anyOf [phrase]).matchAt? text start = phrase.matchAt? text start := by
  rw [matchAt?_anyOf,List.findSome?_singleton]

theorem reach_span (bracket : Bracket opening closing) (text : Text) :
    (∀ start length, closing.matchAt? text start = some length →
      start + length ≤ (span opening closing).reach text) ∧
    ((∃ start length, closing.matchAt? text start = some length) →
      ∃ start length, closing.matchAt? text start = some length ∧
        start + length = (span opening closing).reach text) ∧
    ((¬ ∃ start length, closing.matchAt? text start = some length) →
      (span opening closing).reach text = 0) := by
  have alternatives := alternatives_closing bracket
  obtain ⟨ordered,each⟩ := spansBehind_ordered (bounded_anyOf alternatives.keywords) text 0
  have found (start : Nat) : start ∈ ((anyOf [closing]).spansBehind text 0).map Span.start ↔
      ∃ length, closing.matchAt? text start = some length := by
    rw [← spans_eq,mem_starts_anyOf alternatives]
    simp
  have reach : (span opening closing).reach text =
      ((((anyOf [closing]).spansBehind text 0).getLast?.map Span.stop).getD 0) := rfl
  rcases List.eq_nil_or_concat ((anyOf [closing]).spansBehind text 0) with empty | ⟨front,last,whole⟩
  · rw [empty] at found reach
    refine ⟨?_,?_,fun _ => reach⟩
    · intro start length matched
      cases (found start).mpr ⟨length,matched⟩
    · rintro ⟨start,matched⟩
      cases (found start).mpr matched
  · rw [List.concat_eq_append] at whole
    rw [whole] at found ordered each reach
    rw [reach,List.getLast?_append]
    dsimp only [List.getLast?_singleton,Option.some_or,Option.map_some,Option.getD_some]
    have member : last ∈ front ++ [last] := by simp
    obtain ⟨-,matched,nonempty⟩ := each last member
    rw [matchAt?_single] at matched
    refine ⟨?_,fun _ => ⟨last.start,_,matched,by omega⟩,fun none => absurd ⟨_,_,matched⟩ none⟩
    intro start length other
    obtain ⟨span,inside,rfl⟩ := List.mem_map.mp ((found start).mpr ⟨length,other⟩)
    obtain ⟨-,same,positive⟩ := each span inside
    rw [matchAt?_single,other] at same
    cases same
    rcases List.mem_append.mp inside with before | atEnd
    · have apart := (List.pairwise_append.mp ordered).2.2 span before last (by simp)
      omega
    · rw [List.mem_singleton.mp atEnd]
      have bounds := nonempty
      rw [List.mem_singleton.mp atEnd] at positive
      omega

theorem stops_reach (bracket : Bracket opening closing) {text : Text}
    (present : ∃ start length, closing.matchAt? text start = some length) :
    Stops isWord (text.drop ((span opening closing).reach text)) := by
  obtain ⟨-,last,-⟩ := reach_span bracket text
  obtain ⟨start,length,matched,atEnd⟩ := last present
  rw [← atEnd]
  exact stops_of_matchAt? matched

theorem matchAt?_closing_reach (bracket : Bracket opening closing) (text : Text) (start : Nat) :
    closing.matchAt? (text.take ((span opening closing).reach text)) start =
      closing.matchAt? text start := by
  obtain ⟨bound,-,none⟩ := reach_span bracket text
  ext length
  by_cases present : ∃ start length, closing.matchAt? text start = some length
  · rw [matchAt?_take_iff bracket.closingWords (stops_reach bracket present)]
    exact ⟨And.left,fun found => ⟨found,bound start length found⟩⟩
  · rw [none present,List.take_zero]
    constructor
    · intro found
      have within := start_lt_of_matchAt? bracket.closingWords found
      rw [List.length_nil] at within
      omega
    · intro found
      exact absurd ⟨start,length,found⟩ present

/-- Within reach the spans start where they start in the whole text, and are as long. -/
theorem matchAt?_take_reach (bracket : Bracket opening closing) (text : Text) (start : Nat) :
    (span opening closing).matchAt? (text.take ((span opening closing).reach text)) start =
      (span opening closing).matchAt? text start := by
  ext length
  rw [matchAt?_span_iff bracket,matchAt?_span_iff bracket]
  simp only [matchAt?_closing_reach bracket]
  refine and_congr_left ?_
  rintro ⟨later,k,behind,closed,-,-⟩
  obtain ⟨bound,-,-⟩ := reach_span bracket text
  have room := bound later k closed
  have whole := stops_reach bracket ⟨later,k,closed⟩
  constructor
  · rintro ⟨n,opened⟩
    exact ⟨n,((matchAt?_take_iff bracket.openingWords whole).mp opened).1⟩
  · rintro ⟨n,opened⟩
    have before := bracket.end_le opened behind closed
    exact ⟨n,(matchAt?_take_iff bracket.openingWords whole).mpr ⟨opened,by omega⟩⟩

theorem spansInReach_span (bracket : Bracket opening closing) (text : Text) :
    (span opening closing).spansInReach text = (span opening closing).spans text := by
  unfold spansInReach
  rw [spans_eq,spans_eq]
  exact spansBehind_congr (bounded_span bracket) fun start _ => matchAt?_take_reach bracket text start

end SchemaLint.Pattern
