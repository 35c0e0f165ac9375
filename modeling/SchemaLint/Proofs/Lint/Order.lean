import SchemaLint.Proofs.Lint

/-! The order of the findings. They stand at different places, one behind the other, so the order in
which the rules are applied does not show, and no report is made twice.
-/
namespace SchemaLint
open Text

def reports (text : Text) : List (Rule × Nat) :=
  (Rule.all.flatMap fun rule => (rule.offsets (Comment.neutralize text)).map (rule,·)).mergeSort
    fun a b => a.2 ≤ b.2

theorem Rule.finding_atOrBefore (rule other : Rule) (text : Text) (offset place : Nat) :
    (rule.finding text offset).atOrBefore (other.finding text place) = decide (offset ≤ place) := by
  rw [Bool.eq_iff_iff,decide_eq_true_eq]
  simp only [Diagnostic.atOrBefore,Bool.or_eq_true,Bool.and_eq_true,decide_eq_true_eq]
  rcases Nat.lt_trichotomy offset place with before | rfl | after
  · have ordered := rule.finding_before other text before
    unfold Diagnostic.Before at ordered
    omega
  · exact iff_of_true (.inr ⟨rfl,le_rfl⟩) le_rfl
  · have ordered := other.finding_before rule text after
    unfold Diagnostic.Before at ordered
    omega

theorem lint_eq_reports (text : Text) :
    lint text = (reports text).map fun (rule,offset) => rule.finding text offset := by
  have ok := (lint_spec text).1
  rw [lintWith_eq (fun _ => id) Rule.codes_nodup text,Except.ok.injEq] at ok
  rw [← ok,reports]
  refine Eq.trans ?_ (List.map_mergeSort fun a _ b _ =>
    (Rule.finding_atOrBefore a.1 b.1 text a.2 b.2).symm).symm
  rw [List.map_flatMap]
  simp only [List.map_map,Function.comp_def]

/-- The places that a scan comes to are new to it: rules with different codes share no key, and a rule
finds each of its offsets once. -/
theorem ScanContext.exists_unseen {before behind : List Rule} {rule : Rule} (text : Text)
    (members : ∀ other ∈ before ++ rule :: behind, other ∈ Rule.all)
    (codes : ((before ++ rule :: behind).map Rule.code).Nodup) {first rest : List Nat} {offset : Nat}
    (offsets : rule.offsets (Comment.neutralize text) = first ++ offset :: rest) :
    ∃ swept reached, (ofText text).sweepAll before = (swept,.ok ()) ∧
      swept.addAll rule first = (reached,.ok ()) ∧
      ¬ reached.seen.contains (rule.code,(offset : Int)) = true := by
  have distinct : ∀ other ∈ before ++ rule :: behind,
      (other.offsets (Comment.neutralize text)).Nodup := fun other member =>
    (Rule.offsets_ordered (members other member) _).imp Nat.ne_of_lt
  have own := distinct rule (by simp)
  rw [offsets,List.nodup_append'] at own
  obtain ⟨firstDistinct,-,apart⟩ := own
  rw [List.map_append,List.nodup_append'] at codes
  obtain ⟨beforeCodes,-,codesApart⟩ := codes
  have otherCode : ∀ other ∈ before, other.code ≠ rule.code := by
    intro other member same
    exact codesApart (List.mem_map_of_mem member) (by simp [same])
  obtain ⟨swept,sweeps,holds⟩ := (holds_ofTexts text (Comment.neutralize text)).sweepAll beforeCodes
    (fun other member => distinct other (List.mem_append_left _ member)) (by simp)
  have swept_apart : ∀ report ∈ before.flatMap fun other =>
      (other.offsets (Comment.neutralize text)).map (other,·), report.1.code ≠ rule.code := by
    intro report member
    obtain ⟨other,inside,report⟩ := List.mem_flatMap.mp member
    obtain ⟨place,-,rfl⟩ := List.mem_map.mp report
    exact otherCode other inside
  obtain ⟨reached,reaches,holds⟩ := holds.addAll rule firstDistinct (by
    intro report member code
    exact absurd code (swept_apart report (by simpa using member)))
  refine ⟨swept,reached,sweeps,reaches,holds.unseen rule ?_⟩
  intro report member code
  rcases List.mem_append.mp member with earlier | inFirst
  · exact absurd code (swept_apart report (by simpa using earlier))
  · obtain ⟨place,inside,rfl⟩ := List.mem_map.mp inFirst
    rintro rfl
    exact apart inside (by simp)

/-- Whatever the order of the rules, the findings are the same list. Their lines and columns increase
strictly, there are as many of them as there are occurrences, and every place that the scan comes to
is new to it. -/
theorem lintWith_perm (text : Text) {rules : List Rule} (same : rules.Perm Rule.all) :
    ∃ findings, lintWith rules text = .ok findings ∧ lintWith Rule.all text = .ok findings ∧
      findings.Pairwise Diagnostic.Before ∧
      findings.length =
        (Rule.all.flatMap fun rule => rule.offsets (Comment.neutralize text)).length ∧
      ∀ before rule behind, rules = before ++ rule :: behind → ∀ first offset rest,
        rule.offsets (Comment.neutralize text) = first ++ offset :: rest →
          ∃ swept reached, (ScanContext.ofText text).sweepAll before = (swept,.ok ()) ∧
            swept.addAll rule first = (reached,.ok ()) ∧
            ¬ reached.seen.contains (rule.code,(offset : Int)) = true := by
  have members : ∀ rule ∈ rules, rule ∈ Rule.all := fun rule => same.mem_iff.mp
  have codes : (rules.map Rule.code).Nodup := (same.map Rule.code).nodup_iff.mpr Rule.codes_nodup
  obtain ⟨ok,ordered,found⟩ := lint_spec text
  obtain ⟨findings,okPermuted,orderedPermuted,foundPermuted⟩ := lintWith_eq_ok members codes text
  have equal : findings = lint text := by
    refine orderedPermuted.eq_of_mem_iff ordered fun diagnostic => ?_
    rw [found,foundPermuted]
    simp only [same.mem_iff]
  have counted := lintWith_eq (fun _ => id) Rule.codes_nodup text
  rw [ok,Except.ok.injEq] at counted
  refine ⟨lint text,equal ▸ okPermuted,ok,ordered,?_,?_⟩
  · rw [counted,List.length_mergeSort,List.length_flatMap,List.length_flatMap]
    simp only [List.length_map]
  · rintro before rule behind rfl first offset rest offsets
    exact ScanContext.exists_unseen text members codes offsets

/-- Two rules report on one line, and the registry is read backwards. -/
theorem lintWith_perm_reverse :
    let text := "begin; drop table t".toList
    let rules := Rule.all.reverse
    rules.Perm Rule.all ∧
    ∃ findings, lintWith rules text = .ok findings ∧ lintWith Rule.all text = .ok findings ∧
      findings.Pairwise Diagnostic.Before ∧
      findings.length = (Rule.all.flatMap fun rule =>
        rule.offsets (Comment.neutralize text)).length ∧
      ∀ before rule behind, rules = before ++ rule :: behind → ∀ first offset rest,
        rule.offsets (Comment.neutralize text) = first ++ offset :: rest →
          ∃ swept reached,
            (ScanContext.ofText text).sweepAll before = (swept,.ok ()) ∧
            swept.addAll rule first = (reached,.ok ()) ∧
            ¬ reached.seen.contains (rule.code,(offset : Int)) = true :=
  ⟨List.reverse_perm _,lintWith_perm _ (List.reverse_perm _)⟩

end SchemaLint
