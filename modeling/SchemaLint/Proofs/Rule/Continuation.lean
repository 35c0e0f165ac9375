import SchemaLint.Proofs.Rule.Starts

/-! Texts that go on, but with no word that reaches across. What starts in the first part starts at the
same offset in the whole text: the rest may add occurrences, but hides none.
-/
namespace SchemaLint
open Text Phrase

namespace Phrase
variable {phrase : Phrase} {front back : Text}

theorem matchAt?_front_iff (keywords : Keywords phrase) (stop : Stops isWord back)
    {start length : Nat} : phrase.matchAt? front start = some length ↔
      phrase.matchAt? (front ++ back) start = some length ∧ start + length ≤ front.length := by
  have part : phrase.matchAt? ((front ++ back).take front.length) start = some length ↔ _ :=
    matchAt?_take_iff keywords (by rwa [List.drop_left])
  rwa [List.take_left] at part

theorem StandsAt.append (keywords : Keywords phrase) (stop : Stops isWord back) {start : Nat}
    (stands : phrase.StandsAt front start) : phrase.StandsAt (front ++ back) start := by
  obtain ⟨length,found⟩ := (standsAt_iff keywords front start).mp stands
  exact (standsAt_iff keywords _ start).mpr
    ⟨length,((matchAt?_front_iff keywords stop).mp found).1⟩

end Phrase

namespace Pattern

/-- A span that starts in the first part still does. An opening phrase in front of it that is open in
the whole text ends before the closing phrase of the span, so it is open in the first part already. -/
theorem SpanAt.append {opening closing : Phrase} (bracket : Bracket opening closing)
    {front back : Text} (stop : Stops isWord back) {start : Nat}
    (spanAt : SpanAt opening closing front start) :
    SpanAt opening closing (front ++ back) start := by
  obtain ⟨opened,⟨later,behind,closed⟩,first⟩ := spanAt
  have closedBehind := closed.append bracket.closingWords stop
  refine ⟨opened.append bracket.openingWords stop,⟨later,behind,closedBehind⟩,?_⟩
  rintro ⟨previous,before,stands,unclosed⟩
  obtain ⟨n,found⟩ := (standsAt_iff bracket.openingWords _ previous).mp stands
  obtain ⟨k,closes⟩ := (standsAt_iff bracket.closingWords _ later).mp closedBehind
  have ends := bracket.end_le found (before.trans behind) closes
  have bound := lt_of_standsAt bracket.closingWords closed
  have inFront := (matchAt?_front_iff bracket.openingWords stop).mpr ⟨found,by omega⟩
  refine first ⟨previous,before,(standsAt_iff bracket.openingWords _ previous).mpr ⟨n,inFront⟩,?_⟩
  intro between after ahead stands
  exact unclosed between after ahead (stands.append bracket.closingWords stop)

theorem StartsAt.append {pattern : Pattern} (wellFormed : pattern.WellFormed) {front back : Text}
    (stop : Stops isWord back) {offset : Nat} (starts : pattern.StartsAt front offset) :
    pattern.StartsAt (front ++ back) offset := by
  cases pattern with
  | span opening closing => exact SpanAt.append wellFormed stop starts
  | anyOf phrases =>
    obtain ⟨phrase,member,stands⟩ := starts
    exact ⟨phrase,member,stands.append (wellFormed.keywords phrase member) stop⟩

end Pattern
end SchemaLint
