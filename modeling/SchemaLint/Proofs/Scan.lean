import SchemaLint.Lint
import SchemaLint.Proofs.Finding
import Std.Data.HashSet.Lemmas

/-! What a scan reports: each rule at each place where it finds its construct, and no place is refused.
-/
namespace SchemaLint
namespace ScanContext
open Text

/-- A context for a text, of which `searched` is searched, after some reports. What it has seen in the
text are the places that were reported. -/
structure Holds (text searched : Text) (reports : List (Rule × Nat)) (context : ScanContext) :
    Prop where
  length : context.length = text.length
  lines : context.lines = Text.lines text
  sanitized : context.sanitized = searched
  diagnostics : context.diagnostics.toList = reports.map fun (rule,offset) => rule.finding text offset
  seen : ∀ (code : Code) (offset : Nat), context.seen.contains (code,(offset : Int)) = true ↔
    ∃ report ∈ reports, report.1.code = code ∧ report.2 = offset

variable {text searched : Text} {reports : List (Rule × Nat)} {context : ScanContext}

theorem holds_ofTexts (text searched : Text) : Holds text searched [] (ofTexts text searched) where
  length := rfl
  lines := rfl
  sanitized := rfl
  diagnostics := rfl
  seen := by simp [ofTexts]

theorem Holds.unseen (holds : Holds text searched reports context) (rule : Rule) {offset : Nat}
    (fresh : ∀ report ∈ reports, report.1.code = rule.code → report.2 ≠ offset) :
    ¬ context.seen.contains (rule.code,(offset : Int)) = true := by
  rw [holds.seen]
  rintro ⟨report,member,code,place⟩
  exact fresh report member code place

theorem Holds.add (holds : Holds text searched reports context) (rule : Rule) {offset : Nat}
    (unseen : ¬ context.seen.contains (rule.code,(offset : Int)) = true) :
    ∃ next, context.add rule offset = (next,.ok ()) ∧
      Holds text searched (reports ++ [(rule,offset)]) next := by
  have added : context.add rule offset = (
      { context with
        seen := context.seen.insert (rule.code,(offset : Int))
        diagnostics := context.diagnostics.push (rule.finding text offset) },.ok ()) := by
    rw [ScanContext.add,if_neg unseen]
    dsimp only
    rw [holds.length,holds.lines,Diagnostic.ofPosition_within]
  exact ⟨_,added,
    { length := holds.length
      lines := holds.lines
      sanitized := holds.sanitized
      diagnostics := by simp [holds.diagnostics]
      seen := by
        intro code place
        simp only [Std.HashSet.contains_insert,Bool.or_eq_true,beq_iff_eq,holds.seen,List.mem_append,
          List.mem_singleton,Prod.mk.injEq,Int.natCast_inj]
        constructor
        · rintro (⟨rfl,rfl⟩ | ⟨report,member,same⟩)
          · exact ⟨(rule,offset),.inr rfl,rfl,rfl⟩
          · exact ⟨report,.inl member,same⟩
        · rintro ⟨report,member | rfl,same⟩
          · exact .inr ⟨report,member,same⟩
          · exact .inl same }⟩

theorem Holds.addAll (holds : Holds text searched reports context) (rule : Rule) {offsets : List Nat}
    (distinct : offsets.Nodup)
    (fresh : ∀ report ∈ reports, report.1.code = rule.code → report.2 ∉ offsets) :
    ∃ next, context.addAll rule offsets = (next,.ok ()) ∧
      Holds text searched (reports ++ offsets.map (rule,·)) next := by
  induction offsets generalizing context reports with
  | nil => exact ⟨context,rfl,by simpa using holds⟩
  | cons offset offsets ih =>
    obtain ⟨absent,distinct⟩ := List.nodup_cons.mp distinct
    have freshHere : ∀ report ∈ reports, report.1.code = rule.code → report.2 ≠ offset := by
      intro report member code equal
      exact fresh report member code (by simp [equal])
    obtain ⟨middle,added,holds⟩ := holds.add rule (holds.unseen rule freshHere)
    obtain ⟨next,finished,holds⟩ := ih holds distinct (by
      intro report member code
      rcases List.mem_append.mp member with before | here
      · exact fun later => fresh report before code (List.mem_cons_of_mem _ later)
      · rw [List.mem_singleton.mp here]
        exact absent)
    refine ⟨next,?_,by simpa using holds⟩
    rw [ScanContext.addAll,added]
    exact finished

theorem Holds.sweepAll (holds : Holds text searched reports context) {rules : List Rule}
    (codes : (rules.map Rule.code).Nodup) (distinct : ∀ rule ∈ rules, (rule.offsets searched).Nodup)
    (fresh : ∀ report ∈ reports, report.1.code ∉ rules.map Rule.code) :
    ∃ next, context.sweepAll rules = (next,.ok ()) ∧
      Holds text searched
        (reports ++ rules.flatMap fun rule => (rule.offsets searched).map (rule,·)) next := by
  induction rules generalizing context reports with
  | nil => exact ⟨context,rfl,by simpa using holds⟩
  | cons rule rules ih =>
    rw [List.map_cons] at codes
    obtain ⟨absent,codes⟩ := List.nodup_cons.mp codes
    obtain ⟨middle,swept,reported⟩ := holds.addAll rule (distinct rule (by simp)) (by
      intro report member code
      exact absurd code (by simpa using fun equal => fresh report member (by simp [equal])))
    obtain ⟨next,finished,final⟩ := ih reported codes
      (fun other member => distinct other (List.mem_cons_of_mem _ member)) (by
        intro report member
        rcases List.mem_append.mp member with before | here
        · exact fun later => fresh report before (List.mem_cons_of_mem _ later)
        · obtain ⟨offset,-,rfl⟩ := List.mem_map.mp here
          exact absent)
    refine ⟨next,?_,by simpa using final⟩
    rw [ScanContext.sweepAll,sweep,holds.sanitized,swept]
    exact finished

end ScanContext
end SchemaLint
