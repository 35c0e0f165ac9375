import SchemaLint.Proofs.Rule.Occurrences
import Mathlib.Data.Set.Card

/-! What stands nearest to an offset. Spans are told by the nearest opening phrase in front of them, and
each of them ends at a closing phrase of its own.
-/
namespace SchemaLint.Pattern
open Text Phrase

def Nearest (kind : Nat → Prop) (offset previous : Nat) : Prop :=
  previous < offset ∧ kind previous ∧ ∀ other < offset, kind other → other ≤ previous

theorem exists_nearest (kind : Nat → Prop) {offset previous : Nat} (before : previous < offset)
    (present : kind previous) : ∃ nearest, Nearest kind offset nearest := by
  classical
  have near : previous ≤ offset - 1 := by omega
  have bound := Nat.findGreatest_le (P := kind) (offset - 1)
  refine ⟨Nat.findGreatest kind (offset - 1),by omega,Nat.findGreatest_spec near present,?_⟩
  intro other ahead found
  exact Nat.le_findGreatest (by omega) found

section Bracket
variable {opening closing : Phrase}

theorem not_openAt_iff (opening closing : Phrase) (text : Text) (offset : Nat) :
    ¬ OpenAt opening closing text offset ↔
      (∀ previous < offset, ¬ opening.StandsAt text previous) ∨
        ∃ previous, Nearest (opening.StandsAt text) offset previous ∧
          ∃ between, previous < between ∧ between < offset ∧ closing.StandsAt text between := by
  constructor
  · intro closed
    by_cases present : ∃ previous < offset, opening.StandsAt text previous
    · obtain ⟨previous,before,opened⟩ := present
      obtain ⟨nearest,last⟩ := exists_nearest (opening.StandsAt text) before opened
      refine .inr ⟨nearest,last,?_⟩
      by_contra missing
      exact closed ⟨nearest,last.1,last.2.1,fun between behind ahead stands =>
        missing ⟨between,behind,ahead,stands⟩⟩
    · exact .inl fun previous before opened => present ⟨previous,before,opened⟩
  · rintro (none | ⟨nearest,⟨-,-,last⟩,between,behind,ahead,stands⟩) ⟨previous,before,opened,missing⟩
    · exact none previous before opened
    · have order := last previous before opened
      exact missing between (by omega) ahead stands

def ClosedBy (closing : Phrase) (text : Text) (start place : Nat) : Prop :=
  start < place ∧ closing.StandsAt text place ∧
    ∀ between, start < between → between < place → ¬ closing.StandsAt text between

theorem SpanAt.closedBy {text : Text} {start : Nat} (spanAt : SpanAt opening closing text start) :
    ∃ place, ClosedBy closing text start place := by
  classical
  obtain ⟨behind,closed⟩ := Nat.find_spec spanAt.2.1
  exact ⟨Nat.find spanAt.2.1,behind,closed,fun between after before stands =>
    Nat.find_min spanAt.2.1 before ⟨after,stands⟩⟩

def ClosesAt (opening closing : Phrase) (text : Text) (place : Nat) : Prop :=
  closing.StandsAt text place ∧
    ∃ previous, Nearest (fun offset => opening.StandsAt text offset ∨ closing.StandsAt text offset)
      place previous ∧ opening.StandsAt text previous

theorem Bracket.apart (bracket : Bracket opening closing) {text : Text} {offset : Nat}
    (opened : opening.StandsAt text offset) : ¬ closing.StandsAt text offset := by
  obtain ⟨n,found⟩ := (standsAt_iff bracket.openingWords text offset).mp opened
  have within := start_lt_of_matchAt? bracket.openingWords found
  exact standsAt_inside bracket.openingWords bracket.closingWords bracket.outside found le_rfl
    (by omega)

theorem ClosedBy.closesAt {text : Text} {start place : Nat}
    (opened : opening.StandsAt text start) (closedBy : ClosedBy closing text start place) :
    ClosesAt opening closing text place := by
  obtain ⟨behind,closed,missing⟩ := closedBy
  obtain ⟨nearest,last⟩ := exists_nearest (fun offset =>
    opening.StandsAt text offset ∨ closing.StandsAt text offset) behind (.inl opened)
  refine ⟨closed,nearest,last,?_⟩
  obtain ⟨before,either,greatest⟩ := last
  rcases either with stands | stands
  · exact stands
  · have order := greatest start behind (.inl opened)
    rcases Nat.eq_or_lt_of_le order with rfl | after
    · exact opened
    · exact absurd stands (missing nearest after before)

/-- Spans end at different closing phrases: the later one would start behind an open phrase. -/
theorem SpanAt.eq_of_closedBy {text : Text} {start other place : Nat}
    (spanAt : SpanAt opening closing text start) (otherAt : SpanAt opening closing text other)
    (closedBy : ClosedBy closing text start place)
    (otherClosedBy : ClosedBy closing text other place) : start = other := by
  rcases Nat.lt_trichotomy start other with before | same | after
  · exact absurd ⟨start,before,spanAt.1,fun between behind ahead =>
      closedBy.2.2 between behind (ahead.trans otherClosedBy.1)⟩ otherAt.2.2
  · exact same
  · exact absurd ⟨other,after,otherAt.1,fun between behind ahead =>
      otherClosedBy.2.2 between behind (ahead.trans closedBy.1)⟩ spanAt.2.2

/-- A closing phrase ends the span of the first opening phrase that is open there. -/
theorem ClosesAt.exists_spanAt (bracket : Bracket opening closing) {text : Text} {place : Nat}
    (closesAt : ClosesAt opening closing text place) :
    ∃ start, SpanAt opening closing text start ∧ ClosedBy closing text start place := by
  classical
  obtain ⟨closed,previous,⟨before,-,last⟩,opened⟩ := closesAt
  have isOpen : OpenAt opening closing text place :=
    ⟨previous,before,opened,fun between behind ahead stands =>
      absurd (last between ahead (.inr stands)) (by omega)⟩
  obtain ⟨ahead,starts,missing⟩ := Nat.find_spec isOpen
  refine ⟨Nat.find isOpen,⟨starts,⟨place,ahead,closed⟩,?_⟩,ahead,closed,missing⟩
  rintro ⟨earlier,first,stands,unclosed⟩
  refine Nat.find_min isOpen first ⟨first.trans ahead,stands,fun between behind below => ?_⟩
  rcases Nat.lt_trichotomy between (Nat.find isOpen) with inside | here | beyond
  · exact unclosed between behind inside
  · rw [here]
    exact bracket.apart starts
  · exact missing between beyond below

/-- There are as many spans as closing phrases with an opening one right in front of them. -/
theorem ncard_spanAt (bracket : Bracket opening closing) (text : Text) :
    {start | SpanAt opening closing text start}.ncard =
      {place | ClosesAt opening closing text place}.ncard := by
  have ends : ∀ start, SpanAt opening closing text start → ∃ place, ClosedBy closing text start place :=
    fun start spanAt => spanAt.closedBy
  choose place closedBy using ends
  refine Set.ncard_congr place ?_ ?_ ?_
  · intro start spanAt
    exact (closedBy start spanAt).closesAt spanAt.1
  · intro start other spanAt otherAt same
    have otherClosedBy := closedBy other otherAt
    rw [← same] at otherClosedBy
    exact spanAt.eq_of_closedBy otherAt (closedBy start spanAt) otherClosedBy
  · intro last closesAt
    obtain ⟨start,spanAt,closed⟩ := closesAt.exists_spanAt bracket
    refine ⟨start,spanAt,?_⟩
    have found := closedBy start spanAt
    rcases Nat.lt_trichotomy (place start spanAt) last with before | same | after
    · exact absurd found.2.1 (closed.2.2 _ found.1 before)
    · exact same
    · exact absurd closed.2.1 (found.2.2 _ closed.1 after)

end Bracket
end SchemaLint.Pattern
