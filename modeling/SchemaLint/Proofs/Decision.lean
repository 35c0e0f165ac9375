import SchemaLint.Report
import Mathlib.Data.List.Basic

/-! Decisions. What is decided about findings follows from how many there are and which codes they
have, each code told once, where it is seen first.
-/
namespace SchemaLint.Decision

/-- Whether a list tells the members of another one, each once, in the order in which they are seen
first. -/
structure FirstSeen {α : Type} [DecidableEq α] (told all : List α) : Prop where
  mem_iff : ∀ a, a ∈ told ↔ a ∈ all
  ordered : told.Pairwise fun a b => all.idxOf a < all.idxOf b

theorem mem_distinct {α : Type} [DecidableEq α] (all : List α) (a : α) :
    a ∈ distinct all ↔ a ∈ all := by
  induction all with
  | nil => simp [distinct]
  | cons b all ih =>
    rw [distinct,List.mem_cons,List.mem_filter,ih,List.mem_cons]
    by_cases same : a = b <;> simp [same]

theorem distinct_firstSeen {α : Type} [DecidableEq α] (all : List α) :
    FirstSeen (distinct all) all := by
  refine ⟨mem_distinct all,?_⟩
  induction all with
  | nil => exact .nil
  | cons b all ih =>
    have other {a : α} (member : a ∈ (distinct all).filter (· ≠ b)) :
        (b :: all).idxOf a = all.idxOf a + 1 :=
      List.idxOf_cons_ne all (Ne.symm (of_decide_eq_true (List.mem_filter.mp member).2))
    rw [distinct,List.pairwise_cons]
    constructor
    · intro a member
      rw [List.idxOf_cons_self,other member]
      exact Nat.succ_pos _
    · refine (ih.filter _).imp_of_mem ?_
      intro a c aMember cMember before
      rw [other aMember,other cMember]
      exact Nat.succ_lt_succ before

structure Concludes (decision : Decision) (findings : List Diagnostic) : Prop where
  passed_iff : decision.passed = true ↔ findings = []
  violations_eq : decision.violations = findings.length
  codes_seen : ∃ codes, decision.codes = codes.map Code.name ∧
    FirstSeen codes (findings.map Diagnostic.code)

theorem concludes_ofDiagnostics (findings : List Diagnostic) :
    (ofDiagnostics findings).Concludes findings := by
  cases findings with
  | nil => exact ⟨by simp [ofDiagnostics],rfl,[],rfl,distinct_firstSeen []⟩
  | cons first more =>
    exact ⟨by simp [ofDiagnostics],rfl,_,rfl,distinct_firstSeen _⟩

end SchemaLint.Decision
