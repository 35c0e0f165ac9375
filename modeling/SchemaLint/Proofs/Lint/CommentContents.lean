import SchemaLint.Proofs.Comment.Regions
import SchemaLint.Proofs.Lint.Heading

/-! What stands in comments. It shows in no finding but in the line that a finding quotes, and nothing is
found in a comment.
-/
namespace SchemaLint
open Text

/-- Whether a diagnostic is at an offset of a text, and at no other, that stands in no comment. -/
def Diagnostic.IsInCode (diagnostic : Diagnostic) (text : Text) : Prop :=
  ∃ offset < text.length, ¬ Comment.Commented text offset ∧
    ∀ place, diagnostic.IsAt text place ↔ offset = place

/-- A construct starts with a letter, and there is none in what is blanked. -/
theorem Rule.ReportsAt.not_commented {rule : Rule} {text : Text} {offset : Nat}
    (reports : rule.ReportsAt text offset) : ¬ Comment.Commented text offset := by
  intro commented
  obtain ⟨word,-,spells⟩ := Pattern.StartsAt.spells reports
  obtain ⟨spelt,found,-⟩ := Option.map_eq_some_iff.mp spells
  obtain ⟨-,nonempty,letters,rest,shape,-⟩ := wordAt?_eq_some_iff.mp found
  obtain ⟨c,more,rfl⟩ := List.exists_cons_of_ne_nil nonempty
  have first : (Comment.neutralize text)[offset]? = some c := by
    rw [← List.head?_drop,shape]
    rfl
  rcases Comment.getElem?_neutralize_cases text offset with ⟨-,blank⟩ | ⟨outside,-⟩
  · rw [blank] at first
    have letter := letters c List.mem_cons_self
    rw [← Option.some.inj first] at letter
    cases letter
  · exact outside commented

theorem isInCode_of_mem_lint {text : Text} {diagnostic : Diagnostic}
    (member : diagnostic ∈ lint text) : diagnostic.IsInCode text := by
  obtain ⟨rule,registered,offset,reports,rfl⟩ := ((lint_spec text).2.2 diagnostic).mp member
  exact ⟨offset,reports.lt_length registered,reports.not_commented,
    rule.finding_isAt_iff text offset⟩

/-- Texts with the same comment regions and line feeds, and with the same code, are found to hold the
same, whatever stands in their comments: the same codes and messages at the same lines and columns, in
the same order, and none of them in a comment. -/
theorem lint_commentContents {text other : Text} (feeds : SameFeeds text other)
    (regions : ∀ offset, Comment.Commented text offset ↔ Comment.Commented other offset)
    (code : ∀ offset, ¬ Comment.Commented text offset → text[offset]? = other[offset]?) :
    ∃ findings others, lintWith Rule.all text = .ok findings ∧
      lintWith Rule.all other = .ok others ∧
      findings.map Diagnostic.heading = others.map Diagnostic.heading ∧
      (∀ diagnostic ∈ findings, diagnostic.IsInCode text) ∧
      ∀ diagnostic ∈ others, diagnostic.IsInCode other := by
  have reported : reports text = reports other := by
    unfold reports
    rw [Comment.neutralize_congr regions code]
  exact ⟨lint text,lint other,(lint_spec text).1,(lint_spec other).1,lint_headings feeds reported,
    fun _ => isInCode_of_mem_lint,fun _ => isInCode_of_mem_lint⟩

/-- A comment between two words of a construct may hold a keyword, or openers and a star at its end. -/
theorem lint_commentContents_hidden :
    let text := "drop/*table*/ view".toList
    let other := "drop/*-- /**/ view".toList
    SameFeeds text other ∧
    (∀ offset, Comment.Commented text offset ↔ Comment.Commented other offset) ∧
    (∀ offset, ¬ Comment.Commented text offset → text[offset]? = other[offset]?) ∧
    ∃ findings others, lintWith Rule.all text = .ok findings ∧
      lintWith Rule.all other = .ok others ∧
      findings.map Diagnostic.heading = others.map Diagnostic.heading ∧
      (∀ diagnostic ∈ findings, diagnostic.IsInCode text) ∧
      ∀ diagnostic ∈ others, diagnostic.IsInCode other := by
  intro text other
  have cuts : Comment.Segmentation.Cuts ⟨"drop".toList,[("/*table*/".toList," view".toList)]⟩ text :=
    ⟨by decide,by decide +kernel,.closed (by decide : ¬ ['*','/'] <:+: "table".toList ++ ['*']),
      (by decide +kernel : Comment.Plain " view".toList [])⟩
  have otherCuts :
      Comment.Segmentation.Cuts ⟨"drop".toList,[("/*-- /**/".toList," view".toList)]⟩ other :=
    ⟨by decide,by decide +kernel,.closed (by decide : ¬ ['*','/'] <:+: "-- /*".toList ++ ['*']),
      (by decide +kernel : Comment.Plain " view".toList [])⟩
  have same : Comment.Segmentation.regions ⟨"drop".toList,[("/*table*/".toList," view".toList)]⟩ =
      Comment.Segmentation.regions ⟨"drop".toList,[("/*-- /**/".toList," view".toList)]⟩ := by
    decide
  have blanked : Comment.neutralize text = Comment.neutralize other := by decide
  have feeds : SameFeeds text other := by decide
  have regions (offset : Nat) : Comment.Commented text offset ↔ Comment.Commented other offset := by
    rw [Comment.commented_iff cuts,Comment.commented_iff otherCuts,same]
  have code (offset : Nat) (outside : ¬ Comment.Commented text offset) :
      text[offset]? = other[offset]? := by
    rw [← Comment.getElem?_neutralize outside,blanked,
      Comment.getElem?_neutralize fun inside => outside ((regions offset).mpr inside)]
  exact ⟨feeds,regions,code,lint_commentContents feeds regions code⟩

end SchemaLint
