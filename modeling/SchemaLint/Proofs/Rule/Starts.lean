import SchemaLint.Rule.Catalog
import SchemaLint.Proofs.Rule.Reach
import Mathlib.Data.List.Nodup

/-! Where the rules find their constructs in a text without comments. No two rules find one at the same
offset, since the first words of their phrases differ.
-/
namespace SchemaLint
open Text Phrase

namespace Pattern

def StartsAt : Pattern → Text → Nat → Prop
  | anyOf phrases, text, offset => ∃ phrase ∈ phrases, phrase.StandsAt text offset
  | span opening closing, text, offset => SpanAt opening closing text offset

/-- A pattern of which the occurrences cannot overlap. -/
def WellFormed : Pattern → Prop
  | anyOf phrases => Alternatives phrases
  | span opening closing => Bracket opening closing

def firstWords : Pattern → List Text
  | anyOf phrases => phrases.filterMap List.head?
  | span opening _ => opening.head?.toList

theorem bounded_of_wellFormed {pattern : Pattern} (wellFormed : pattern.WellFormed) :
    pattern.Bounded := by
  cases pattern with
  | anyOf phrases => exact bounded_anyOf wellFormed.keywords
  | span opening closing => exact bounded_span wellFormed

theorem spansInReach_eq {pattern : Pattern} (wellFormed : pattern.WellFormed) (text : Text) :
    pattern.spansInReach text = pattern.spans text := by
  cases pattern with
  | anyOf phrases => exact spansInReach_anyOf phrases text
  | span opening closing => exact spansInReach_span wellFormed text

theorem mem_starts {pattern : Pattern} (wellFormed : pattern.WellFormed) (text : Text)
    (offset : Nat) :
    offset ∈ (pattern.spans text).map Span.start ↔ pattern.StartsAt text offset := by
  cases pattern with
  | anyOf phrases =>
    rw [mem_starts_anyOf wellFormed]
    constructor
    · rintro ⟨phrase,member,found⟩
      exact ⟨phrase,member,(standsAt_iff (wellFormed.keywords phrase member) text offset).mpr found⟩
    · rintro ⟨phrase,member,stands⟩
      exact ⟨phrase,member,(standsAt_iff (wellFormed.keywords phrase member) text offset).mp stands⟩
  | span opening closing => exact mem_starts_span wellFormed text offset

theorem StartsAt.lt_length {pattern : Pattern} (wellFormed : pattern.WellFormed) {text : Text}
    {offset : Nat} (starts : pattern.StartsAt text offset) : offset < text.length := by
  cases pattern with
  | span opening closing => exact lt_of_standsAt wellFormed.openingWords starts.1
  | anyOf phrases =>
    obtain ⟨phrase,member,stands⟩ := starts
    exact lt_of_standsAt (wellFormed.keywords phrase member) stands

theorem spells_of_standsAt {phrase : Phrase} {text : Text} {offset : Nat}
    (stands : phrase.StandsAt text offset) : ∃ word ∈ phrase.head?, Spells text offset word := by
  cases phrase with
  | nil => cases stands
  | cons word words => exact ⟨word,rfl,Phrase.spells_of_standsAt stands⟩

theorem StartsAt.spells {pattern : Pattern} {text : Text} {offset : Nat}
    (starts : pattern.StartsAt text offset) :
    ∃ word ∈ pattern.firstWords, Spells text offset word := by
  cases pattern with
  | anyOf phrases =>
    obtain ⟨phrase,member,stands⟩ := starts
    obtain ⟨word,first,spells⟩ := spells_of_standsAt stands
    exact ⟨word,List.mem_filterMap.mpr ⟨phrase,member,first⟩,spells⟩
  | span opening closing =>
    obtain ⟨word,first,spells⟩ := spells_of_standsAt starts.1
    exact ⟨word,Option.mem_toList.mpr first,spells⟩

end Pattern

namespace Rule

-- The letters are decided along the word, not among all characters.
instance (phrase : Phrase) : Decidable (Keywords phrase) :=
  have (word : Text) : Decidable (∀ c ∈ word, c.isUpper = true) := List.decidableBAll _ word
  inferInstanceAs (Decidable (_ ∧ _))

instance (phrase words : Phrase) : Decidable (Avoids phrase words) :=
  inferInstanceAs (Decidable (∀ first ∈ phrase.head?, first ∉ words))

theorem wellFormed {rule : Rule} (member : rule ∈ all) : rule.pattern.WellFormed := by
  simp only [all,List.mem_cons,List.not_mem_nil,or_false] at member
  rcases member with rfl | rfl | rfl | rfl | rfl
  · exact ⟨by decide,by decide⟩
  · exact ⟨by decide,by decide⟩
  · exact ⟨by decide,by decide⟩
  · exact ⟨by decide,by decide⟩
  · exact ⟨by decide,by decide,by decide,by decide,by decide⟩

theorem codes_nodup : (all.map code).Nodup := by
  decide

theorem eq_of_code {rule other : Rule} (member : rule ∈ all) (otherMember : other ∈ all)
    (codes : rule.code = other.code) : rule = other :=
  List.inj_on_of_nodup_map codes_nodup member otherMember codes

theorem apart {rule other : Rule} (member : rule ∈ all) (otherMember : other ∈ all)
    {text : Text} {offset : Nat} (starts : rule.pattern.StartsAt text offset)
    (otherStarts : other.pattern.StartsAt text offset) : rule = other := by
  obtain ⟨word,first,spells⟩ := starts.spells
  obtain ⟨otherWord,otherFirst,otherSpells⟩ := otherStarts.spells
  have same : word = otherWord := by
    unfold Spells at spells otherSpells
    rw [spells] at otherSpells
    exact Option.some.inj otherSpells
  subst same
  have separate : ∀ rule ∈ all, ∀ other ∈ all, ∀ word ∈ rule.pattern.firstWords,
      word ∈ other.pattern.firstWords → rule.code = other.code := by
    decide
  exact eq_of_code member otherMember
    (separate rule member other otherMember word first otherFirst)

theorem mem_offsets {rule : Rule} (member : rule ∈ all) (text : Text) (offset : Nat) :
    offset ∈ rule.offsets text ↔ rule.pattern.StartsAt text offset := by
  unfold offsets
  rw [Pattern.spansInReach_eq (wellFormed member)]
  exact Pattern.mem_starts (wellFormed member) text offset

theorem offsets_ordered {rule : Rule} (member : rule ∈ all) (text : Text) :
    (rule.offsets text).Pairwise (· < ·) := by
  obtain ⟨ordered,each⟩ := Pattern.spansBehind_ordered
    (Pattern.bounded_of_wellFormed (wellFormed member)) text 0
  unfold offsets
  rw [Pattern.spansInReach_eq (wellFormed member),Pattern.spans_eq,List.pairwise_map]
  refine ordered.imp_of_mem ?_
  intro a b aMember bMember apart
  have nonempty := (each a aMember).2.2
  omega

end Rule
end SchemaLint
