import SchemaLint.Proofs.Scan
import SchemaLint.Proofs.Rule.Starts
import SchemaLint.Proofs.Comment.Region
import Mathlib.Data.List.Sort

/-! The findings in a text. They are what the rules report at the offsets where their constructs start
in the text without comments, in the order of the text.
-/
namespace SchemaLint
open Text

namespace Diagnostic

instance : Std.Irrefl Before := ⟨before_irrefl⟩

instance : Std.Antisymm Before := ⟨fun _ _ first second => absurd second first.asymm⟩

theorem atOrBefore_trans (a b c : Diagnostic) (first : a.atOrBefore b = true)
    (second : b.atOrBefore c = true) : a.atOrBefore c = true := by
  simp only [atOrBefore,Bool.or_eq_true,Bool.and_eq_true,decide_eq_true_eq] at *
  omega

theorem atOrBefore_total (a b : Diagnostic) : (a.atOrBefore b || b.atOrBefore a) = true := by
  simp only [atOrBefore,Bool.or_eq_true,Bool.and_eq_true,decide_eq_true_eq]
  omega

theorem mergeSort_before {diagnostics : List Diagnostic}
    (apart : diagnostics.Pairwise fun a b => a.Before b ∨ b.Before a) :
    (diagnostics.mergeSort atOrBefore).Pairwise Before := by
  have sorted := List.pairwise_mergeSort atOrBefore_trans atOrBefore_total diagnostics
  have apart := (List.mergeSort_perm diagnostics atOrBefore).symm.pairwise apart Or.symm
  refine (sorted.and apart).imp ?_
  rintro a b ⟨ordered,before | after⟩
  · exact before
  · unfold Before at *
    simp only [atOrBefore,Bool.or_eq_true,Bool.and_eq_true,decide_eq_true_eq] at ordered
    omega

end Diagnostic

def Rule.ReportsAt (rule : Rule) (text : Text) (offset : Nat) : Prop :=
  rule.pattern.StartsAt (Comment.neutralize text) offset

theorem Rule.ReportsAt.lt_length {rule : Rule} (member : rule ∈ Rule.all) {text : Text}
    {offset : Nat} (reports : rule.ReportsAt text offset) : offset < text.length := by
  have bound := Pattern.StartsAt.lt_length (Rule.wellFormed member) reports
  rw [Comment.length_neutralize] at bound
  exact bound

theorem Rule.findings_apart {rules : List Rule} (members : ∀ rule ∈ rules, rule ∈ Rule.all)
    (codes : (rules.map Rule.code).Nodup) (text : Text) :
    (rules.flatMap fun rule => (rule.offsets (Comment.neutralize text)).map
      (rule.finding text)).Pairwise fun a b => a.Before b ∨ b.Before a := by
  rw [List.pairwise_flatMap]
  refine ⟨?_,?_⟩
  · intro rule member
    rw [List.pairwise_map]
    exact (Rule.offsets_ordered (members rule member) _).imp fun ordered =>
      .inl (rule.finding_before rule text ordered)
  · refine (List.pairwise_map.mp codes).imp_of_mem ?_
    intro rule other member otherMember different a aMember b bMember
    obtain ⟨first,found,rfl⟩ := List.mem_map.mp aMember
    obtain ⟨second,otherFound,rfl⟩ := List.mem_map.mp bMember
    rcases Nat.lt_trichotomy first second with before | same | after
    · exact .inl (rule.finding_before other text before)
    · subst same
      refine absurd (congrArg Rule.code (Rule.apart (members rule member)
        (members other otherMember) ((Rule.mem_offsets (members rule member) _ _).mp found)
        ((Rule.mem_offsets (members other otherMember) _ _).mp otherFound))) different
    · exact .inr (other.finding_before rule text after)

/-- Rules with different codes report all that they find. -/
theorem lintWith_eq {rules : List Rule} (members : ∀ rule ∈ rules, rule ∈ Rule.all)
    (codes : (rules.map Rule.code).Nodup) (text : Text) :
    lintWith rules text = .ok ((rules.flatMap fun rule =>
      (rule.offsets (Comment.neutralize text)).map (rule.finding text)).mergeSort
        Diagnostic.atOrBefore) := by
  obtain ⟨context,swept,holds⟩ := (ScanContext.holds_ofTexts text (Comment.neutralize text)).sweepAll
    codes (fun rule member => (Rule.offsets_ordered (members rule member) _).imp Nat.ne_of_lt)
    (by simp)
  have diagnostics := holds.diagnostics
  rw [List.nil_append,List.map_flatMap] at diagnostics
  simp only [List.map_map,Function.comp_def] at diagnostics
  unfold lintWith ScanContext.ofText
  rw [swept]
  dsimp only
  rw [diagnostics]

theorem lintWith_eq_ok {rules : List Rule} (members : ∀ rule ∈ rules, rule ∈ Rule.all)
    (codes : (rules.map Rule.code).Nodup) (text : Text) :
    ∃ findings, lintWith rules text = .ok findings ∧ findings.Pairwise Diagnostic.Before ∧
      ∀ diagnostic, diagnostic ∈ findings ↔
        ∃ rule ∈ rules, ∃ offset, rule.ReportsAt text offset ∧
          diagnostic = rule.finding text offset := by
  refine ⟨_,lintWith_eq members codes text,
    Diagnostic.mergeSort_before (Rule.findings_apart members codes text),?_⟩
  intro diagnostic
  rw [List.mem_mergeSort,List.mem_flatMap]
  constructor
  · rintro ⟨rule,member,report⟩
    obtain ⟨offset,found,rfl⟩ := List.mem_map.mp report
    exact ⟨rule,member,offset,(Rule.mem_offsets (members rule member) _ _).mp found,rfl⟩
  · rintro ⟨rule,member,offset,reports,rfl⟩
    exact ⟨rule,member,List.mem_map.mpr
      ⟨offset,(Rule.mem_offsets (members rule member) _ _).mpr reports,rfl⟩⟩

theorem lint_spec (text : Text) : lintWith Rule.all text = .ok (lint text) ∧
    (lint text).Pairwise Diagnostic.Before ∧
    ∀ diagnostic, diagnostic ∈ lint text ↔
      ∃ rule ∈ Rule.all, ∃ offset, rule.ReportsAt text offset ∧
        diagnostic = rule.finding text offset := by
  obtain ⟨findings,ok,ordered,members⟩ := lintWith_eq_ok (fun _ => id) Rule.codes_nodup text
  have equal : lint text = findings := by
    unfold lint
    rw [ok]
  rw [equal]
  exact ⟨ok,ordered,members⟩

end SchemaLint
