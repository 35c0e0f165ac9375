import SchemaLint.Proofs.Rule.Starts
import Mathlib.Order.Monotone.Basic
import Mathlib.Data.List.Sort

/-! Two texts in which the same phrases stand, in the same order but at other offsets. What is told by
phrases and their order alone, such as where spans start, is then the same in both.
-/
namespace SchemaLint
open Text Phrase

/-- A map of the offsets of a text to those of another one that keeps their order and takes the places
where phrases stand to those where they stand in the other text. -/
structure Relocates (move : Nat → Nat) (text other : Text) : Prop where
  mono : StrictMono move
  stands : ∀ phrase, Keywords phrase → ∀ offset,
    phrase.StandsAt other (move offset) ↔ phrase.StandsAt text offset
  onto : ∀ phrase, Keywords phrase → ∀ place, phrase.StandsAt other place →
    ∃ offset, place = move offset

namespace Pattern
variable {move : Nat → Nat} {text other : Text} {opening closing : Phrase}

theorem openAt_relocated (relocates : Relocates move text other)
    (bracket : Bracket opening closing) (offset : Nat) :
    OpenAt opening closing other (move offset) ↔ OpenAt opening closing text offset := by
  constructor
  · rintro ⟨place,before,opened,unclosed⟩
    obtain ⟨previous,rfl⟩ := relocates.onto opening bracket.openingWords place opened
    refine ⟨previous,relocates.mono.lt_iff_lt.mp before,
      (relocates.stands opening bracket.openingWords previous).mp opened,?_⟩
    intro between behind ahead closed
    exact unclosed (move between) (relocates.mono behind) (relocates.mono ahead)
      ((relocates.stands closing bracket.closingWords between).mpr closed)
  · rintro ⟨previous,before,opened,unclosed⟩
    refine ⟨move previous,relocates.mono before,
      (relocates.stands opening bracket.openingWords previous).mpr opened,?_⟩
    intro place behind ahead closed
    obtain ⟨between,rfl⟩ := relocates.onto closing bracket.closingWords place closed
    exact unclosed between (relocates.mono.lt_iff_lt.mp behind) (relocates.mono.lt_iff_lt.mp ahead)
      ((relocates.stands closing bracket.closingWords between).mp closed)

theorem spanAt_relocated (relocates : Relocates move text other)
    (bracket : Bracket opening closing) (offset : Nat) :
    SpanAt opening closing other (move offset) ↔ SpanAt opening closing text offset := by
  unfold SpanAt
  rw [relocates.stands opening bracket.openingWords,openAt_relocated relocates bracket]
  refine and_congr_right fun _ => and_congr_left fun _ => ?_
  constructor
  · rintro ⟨place,behind,closed⟩
    obtain ⟨later,rfl⟩ := relocates.onto closing bracket.closingWords place closed
    exact ⟨later,relocates.mono.lt_iff_lt.mp behind,
      (relocates.stands closing bracket.closingWords later).mp closed⟩
  · rintro ⟨later,behind,closed⟩
    exact ⟨move later,relocates.mono behind,
      (relocates.stands closing bracket.closingWords later).mpr closed⟩

theorem startsAt_relocated {pattern : Pattern} (relocates : Relocates move text other)
    (wellFormed : pattern.WellFormed) (place : Nat) :
    pattern.StartsAt other place ↔ ∃ offset, pattern.StartsAt text offset ∧ move offset = place := by
  cases pattern with
  | span opening closing =>
    constructor
    · intro spanAt
      obtain ⟨offset,rfl⟩ := relocates.onto opening wellFormed.openingWords place spanAt.1
      exact ⟨offset,(spanAt_relocated relocates wellFormed offset).mp spanAt,rfl⟩
    · rintro ⟨offset,spanAt,rfl⟩
      exact (spanAt_relocated relocates wellFormed offset).mpr spanAt
  | anyOf phrases =>
    constructor
    · rintro ⟨phrase,member,stands⟩
      have keywords := wellFormed.keywords phrase member
      obtain ⟨offset,rfl⟩ := relocates.onto phrase keywords place stands
      exact ⟨offset,⟨phrase,member,(relocates.stands phrase keywords offset).mp stands⟩,rfl⟩
    · rintro ⟨offset,⟨phrase,member,stands⟩,rfl⟩
      exact ⟨phrase,member,
        (relocates.stands phrase (wellFormed.keywords phrase member) offset).mpr stands⟩

end Pattern

theorem Rule.offsets_relocated {rule : Rule} (member : rule ∈ all) {move : Nat → Nat}
    {text other : Text} (relocates : Relocates move text other) :
    rule.offsets other = (rule.offsets text).map move := by
  have moved : ((rule.offsets text).map move).Pairwise (· < ·) :=
    List.pairwise_map.mpr ((offsets_ordered member text).imp fun ordered => relocates.mono ordered)
  refine (offsets_ordered member other).eq_of_mem_iff moved fun place => ?_
  rw [mem_offsets member,Pattern.startsAt_relocated relocates (wellFormed member),List.mem_map]
  simp only [mem_offsets member]

end SchemaLint
