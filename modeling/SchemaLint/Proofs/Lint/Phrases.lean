import SchemaLint.Proofs.Lint

/-! The findings of the rules that report phrases. Words that stand in a text without its comments are
reported, each place once, and nothing else is.
-/
namespace SchemaLint
open Text

def Phrase.ofStrings (words : List String) : Phrase :=
  words.map String.toList

/-- Whether the findings of a rule are those at the offsets of a kind: one finding for each of them,
which tells the rule's message and the line, the column and the trimmed line of the offset. -/
def ReportsExactly (text : Text) (rule : Rule) (starts : Nat → Prop) : Prop :=
  (∀ offset, (∃ diagnostic ∈ lint text, diagnostic.code = rule.code ∧
    diagnostic.IsAt text offset) ↔ starts offset) ∧
  (∀ offset, starts offset → (lint text).filter (fun diagnostic =>
    diagnostic.code = rule.code ∧ diagnostic.IsAt text offset) = [rule.finding text offset]) ∧
  ∀ diagnostic ∈ lint text, diagnostic.code = rule.code →
    ∃ offset, starts offset ∧ diagnostic = rule.finding text offset

theorem reportsExactly {rule : Rule} (member : rule ∈ Rule.all) {text : Text} {starts : Nat → Prop}
    (same : ∀ offset, rule.ReportsAt text offset ↔ starts offset) :
    ReportsExactly text rule starts := by
  obtain ⟨-,ordered,findings⟩ := lint_spec text
  have own : ∀ diagnostic ∈ lint text, diagnostic.code = rule.code →
      ∃ offset, starts offset ∧ diagnostic = rule.finding text offset := by
    intro diagnostic found code
    obtain ⟨other,otherMember,offset,reports,rfl⟩ := (findings diagnostic).mp found
    obtain rfl := Rule.eq_of_code otherMember member code
    exact ⟨offset,(same offset).mp reports,rfl⟩
  have made : ∀ offset, starts offset → rule.finding text offset ∈ lint text := by
    intro offset start
    exact (findings _).mpr ⟨rule,member,offset,(same offset).mpr start,rfl⟩
  refine ⟨?_,?_,own⟩
  · intro offset
    constructor
    · rintro ⟨diagnostic,found,code,isAt⟩
      obtain ⟨place,start,rfl⟩ := own diagnostic found code
      rw [← (rule.finding_isAt_iff text place offset).mp isAt]
      exact start
    · intro start
      exact ⟨_,made offset start,rfl,(rule.finding_isAt_iff text offset offset).mpr rfl⟩
  · intro offset start
    refine (ordered.filter _).eq_of_mem_iff (List.pairwise_singleton _ _) ?_
    intro diagnostic
    rw [List.mem_filter,List.mem_singleton,decide_eq_true_eq]
    constructor
    · rintro ⟨found,code,isAt⟩
      obtain ⟨place,-,rfl⟩ := own diagnostic found code
      rw [(rule.finding_isAt_iff text place offset).mp isAt]
    · rintro rfl
      exact ⟨made offset start,rfl,(rule.finding_isAt_iff text offset offset).mpr rfl⟩

theorem startsAt_map {text : Text} {offset : Nat} (words : List String) (phrase : String → Phrase) :
    (Pattern.anyOf (words.map phrase)).StartsAt text offset ↔
      ∃ word ∈ words, (phrase word).StandsAt text offset := by
  constructor
  · rintro ⟨other,member,stands⟩
    obtain ⟨word,inside,rfl⟩ := List.mem_map.mp member
    exact ⟨word,inside,stands⟩
  · rintro ⟨word,inside,stands⟩
    exact ⟨_,List.mem_map.mpr ⟨word,inside,rfl⟩,stands⟩

/-- The rules that report phrases find them exactly where their words stand, one behind the other with
nothing but gaps between them, in the text without its comments; and no text makes them fail. -/
theorem lint_phrases (text : Text) :
    lintWith Rule.all text = .ok (lint text) ∧
      ReportsExactly text Rule.createOrReplace
        (Phrase.StandsAt (Comment.neutralize text) (.ofStrings ["CREATE","OR","REPLACE"])) ∧
      ReportsExactly text Rule.dropStatement (fun offset =>
        ∃ object ∈ ["TABLE","SCHEMA","VIEW","INDEX","SEQUENCE","FUNCTION","TRIGGER"],
          Phrase.StandsAt (Comment.neutralize text) (.ofStrings ["DROP",object]) offset) ∧
      ReportsExactly text Rule.transactionControl (fun offset =>
        ∃ word ∈ ["BEGIN","COMMIT","ROLLBACK"],
          Phrase.StandsAt (Comment.neutralize text) (.ofStrings [word]) offset) ∧
      ReportsExactly text Rule.conditionalDefinition (fun offset =>
        Phrase.StandsAt (Comment.neutralize text) (.ofStrings ["IF","EXISTS"]) offset ∨
          Phrase.StandsAt (Comment.neutralize text) (.ofStrings ["IF","NOT","EXISTS"]) offset) := by
  refine ⟨(lint_spec text).1,reportsExactly (by simp [Rule.all]) ?_,
    reportsExactly (by simp [Rule.all]) ?_,reportsExactly (by simp [Rule.all]) ?_,
    reportsExactly (by simp [Rule.all]) ?_⟩
  · intro offset
    constructor
    · rintro ⟨phrase,member,stands⟩
      rw [List.mem_singleton.mp member] at stands
      exact stands
    · intro stands
      exact ⟨_,List.mem_singleton.mpr rfl,stands⟩
  · intro offset
    exact startsAt_map Rule.droppedObjects fun object => .ofStrings ["DROP",object]
  · intro offset
    exact startsAt_map ["BEGIN","COMMIT","ROLLBACK"] fun word => .ofStrings [word]
  · intro offset
    constructor
    · rintro ⟨phrase,member,stands⟩
      rcases List.mem_cons.mp member with rfl | member
      · exact .inr stands
      · rw [List.mem_singleton.mp member] at stands
        exact .inl stands
    · rintro (stands | stands)
      · exact ⟨_,List.mem_cons_of_mem _ (List.mem_singleton.mpr rfl),stands⟩
      · exact ⟨_,List.mem_cons_self,stands⟩

end SchemaLint
