import SchemaLint.Proofs.Comment.Region
import SchemaLint.Proofs.Lint.ColumnDrops
import SchemaLint.Proofs.Rule.Pieces

/-! Linting two pieces of a text that a statement end on a line of its own parts. Where the first piece
leaves no block comment open and no altered table without a dropped column, the findings are those of
the pieces, one behind the other.
-/
namespace SchemaLint
open Text

namespace Comment

theorem blankFrom_separator {region : Region} (outside : region ≠ .block) (back : Text) :
    blankFrom region (separator ++ back) = separator ++ neutralize back := by
  have plain : blankFrom .code (';' :: '\n' :: back) = ';' :: '\n' :: neutralize back := by
    rw [blankFrom_code_cons (by simp [opens_cons]),blankFrom_code_cons (by simp [opens_cons]),
      neutralize_eq]
  rw [separator_append,separator_append,← plain]
  cases region with
  | code => exact blankFrom_code_cons (by simp [opens_cons])
  | line => rfl
  | block => exact absurd rfl outside

theorem neutralize_pieces {front : Text} (outside : after .code front ≠ .block) (back : Text) :
    neutralize (front ++ separator ++ back) =
      neutralize front ++ separator ++ neutralize back := by
  have clear : Clear (after .code front) (separator ++ back) := by
    cases region : after .code front with
    | code => exact ⟨by simp [separator_append],by simp [separator_append]⟩
    | line => trivial
    | block => exact absurd region outside
  rw [neutralize_eq,neutralize_eq front,List.append_assoc,blankFrom_append .code front _ clear,
    blankFrom_separator outside,List.append_assoc]

end Comment

def Diagnostic.down (lines : Nat) (diagnostic : Diagnostic) : Diagnostic :=
  { diagnostic with
    line := diagnostic.line + lines
    line_pos := Nat.le_add_right_of_le diagnostic.line_pos }

theorem Diagnostic.Before.down {a b : Diagnostic} (before : a.Before b) (lines : Nat) :
    (a.down lines).Before (b.down lines) := by
  unfold Before Diagnostic.down at *
  dsimp only
  omega

namespace Rule

theorem finding_front (rule : Rule) {front : Text} (back : Text) {offset : Nat}
    (inside : offset ≤ front.length) :
    rule.finding (front ++ separator ++ back) offset = rule.finding front offset := by
  rw [List.append_assoc,separator_append]
  exact rule.finding_feed _ inside

theorem finding_back (rule : Rule) (front back : Text) (place : Nat) :
    rule.finding (front ++ separator ++ back) ((front ++ separator).length + place) =
      (rule.finding back place).down (front.count '\n' + 2) := by
  have before : (front ++ separator ++ back).take ((front ++ separator).length + place) =
      front ++ separator ++ back.take place := List.take_length_add_append _
  have behind : (front ++ separator ++ back).drop ((front ++ separator).length + place) =
      back.drop place := List.drop_length_add_append _
  have line : lineBefore (front ++ separator ++ back.take place) = lineBefore (back.take place) := by
    rw [List.append_assoc,separator_append]
    exact (lineBefore_feed front _).trans (lineBefore_feed [';'] _)
  have feeds : separator.count '\n' = 2 := by decide
  have bound := length_lineBefore_le (back.take place)
  simp only [finding,Diagnostic.down,Diagnostic.mk.injEq,before,behind,line,true_and,and_true]
  constructor
  · rw [List.count_append,List.count_append,feeds]
    omega
  · have size : (front ++ separator ++ back.take place).length =
        (front ++ separator).length + (back.take place).length := List.length_append
    omega

theorem settled {rule : Rule} (member : rule ∈ all) {front : Text}
    (tables : ∀ start, AltersTableAt front start →
      ∃ later, start < later ∧ DropsColumnAt front later) :
    rule.pattern.Settled (Comment.neutralize front) := by
  simp only [all,List.mem_cons,List.not_mem_nil,or_false] at member
  rcases member with rfl | rfl | rfl | rfl | rfl
  · trivial
  · trivial
  · trivial
  · trivial
  · exact tables

theorem reportsAt_pieces {rule : Rule} (member : rule ∈ all) {front : Text}
    (outside : Comment.after .code front ≠ .block)
    (tables : ∀ start, AltersTableAt front start →
      ∃ later, start < later ∧ DropsColumnAt front later) (back : Text) (offset : Nat) :
    rule.ReportsAt (front ++ separator ++ back) offset ↔
      rule.ReportsAt front offset ∨
        ∃ place, offset = (front ++ separator).length + place ∧ rule.ReportsAt back place := by
  unfold ReportsAt
  rw [Comment.neutralize_pieces outside,
    Pattern.startsAt_pieces (wellFormed member) (settled member tables),
    List.length_append,List.length_append,Comment.length_neutralize]

end Rule

/-- Linting two pieces is linting each of them, where the first one leaves nothing open. -/
theorem lint_pieces {front : Text} (outside : Comment.after .code front ≠ .block)
    (tables : ∀ start, AltersTableAt front start →
      ∃ later, start < later ∧ DropsColumnAt front later) (back : Text) :
    lintWith Rule.all (front ++ "\n;\n".toList ++ back) =
      .ok (lint front ++ (lint back).map (Diagnostic.down (front.count '\n' + 2))) := by
  change lintWith Rule.all (front ++ separator ++ back) = _
  obtain ⟨ok,ordered,findings⟩ := lint_spec (front ++ separator ++ back)
  obtain ⟨-,frontOrdered,frontFindings⟩ := lint_spec front
  obtain ⟨-,backOrdered,backFindings⟩ := lint_spec back
  rw [ok]
  congr 1
  refine ordered.eq_of_mem_iff (List.pairwise_append.mpr ⟨frontOrdered,?_,?_⟩) ?_
  · rw [List.pairwise_map]
    exact backOrdered.imp fun before => before.down _
  · intro a aMember b bMember
    obtain ⟨rule,member,offset,reports,rfl⟩ := (frontFindings a).mp aMember
    obtain ⟨found,foundMember,rfl⟩ := List.mem_map.mp bMember
    obtain ⟨other,-,place,-,rfl⟩ := (backFindings found).mp foundMember
    have inside := reports.lt_length member
    rw [← rule.finding_front back inside.le,← other.finding_back front back place]
    exact rule.finding_before other _ (by rw [List.length_append]; omega)
  · intro diagnostic
    rw [findings,List.mem_append,frontFindings,List.mem_map]
    constructor
    · rintro ⟨rule,member,offset,reports,rfl⟩
      rcases (Rule.reportsAt_pieces member outside tables back offset).mp reports with
        inFront | ⟨place,rfl,inBack⟩
      · exact .inl ⟨rule,member,offset,inFront,
          rule.finding_front back (inFront.lt_length member).le⟩
      · exact .inr ⟨rule.finding back place,(backFindings _).mpr ⟨rule,member,place,inBack,rfl⟩,
          (rule.finding_back front back place).symm⟩
    · rintro (⟨rule,member,offset,reports,rfl⟩ | ⟨found,foundMember,rfl⟩)
      · exact ⟨rule,member,offset,
          (Rule.reportsAt_pieces member outside tables back offset).mpr (.inl reports),
          (rule.finding_front back (reports.lt_length member).le).symm⟩
      · obtain ⟨rule,member,place,reports,rfl⟩ := (backFindings found).mp foundMember
        exact ⟨rule,member,_,
          (Rule.reportsAt_pieces member outside tables back _).mpr (.inr ⟨place,rfl,reports⟩),
          (rule.finding_back front back place).symm⟩

/-- A dropped column closes the altered table, and the line feed ends the comment. -/
theorem lint_pieces_lineComment :
    let front := "alter table t drop column c -- begin".toList
    let back := "begin; /*".toList
    Comment.after .code front ≠ .block ∧
      (∀ start, AltersTableAt front start → ∃ later, start < later ∧ DropsColumnAt front later) ∧
      lintWith Rule.all (front ++ "\n;\n".toList ++ back) =
        .ok (lint front ++ (lint back).map (Diagnostic.down (front.count '\n' + 2))) := by
  intro front back
  have outside : Comment.after .code front ≠ .block := by decide
  have tables : ∀ start, AltersTableAt front start →
      ∃ later, start < later ∧ DropsColumnAt front later := by
    intro start alters
    have only : ∀ place < front.length, Phrase.matchAt? (.ofStrings ["ALTER","TABLE"])
        (Comment.neutralize front) place ≠ none → place = 0 := by
      decide
    obtain ⟨length,found⟩ := (Phrase.standsAt_iff (by decide) _ start).mp alters
    have within := Phrase.start_lt_of_matchAt? (by decide) found
    rw [Comment.length_neutralize] at within
    obtain rfl := only start (by omega) (by rw [found]; exact Option.some_ne_none length)
    exact ⟨14,by decide,(Phrase.standsAt_iff (by decide) _ 14).mpr ⟨11,by decide⟩⟩
  exact ⟨outside,tables,lint_pieces outside tables back⟩

end SchemaLint
