import SchemaLint.Proofs.Lint.Heading
import SchemaLint.Proofs.Lint.Insertion
import SchemaLint.Proofs.Text.Similar

/-! Texts that are alike. Their comments are the same, the same phrases stand in them at the same offsets,
and so the same is found in them, whatever their letters' case and whatever characters fill the rest.
-/
namespace SchemaLint
open Text

namespace Comment
variable {text other : Text}

theorem opens_alike (alike : Alike text other) : Opens text ↔ Opens other := by
  cases alike with
  | nil => rfl
  | cons similar rest =>
    have dash : '-' ∈ delimiters := by decide
    have slash : '/' ∈ delimiters := by decide
    have star : '*' ∈ delimiters := by decide
    rw [opens_cons,opens_cons,similar.eq_iff dash,similar.eq_iff slash,Alike.head?_eq_iff rest dash,
      Alike.head?_eq_iff rest star]

theorem closes_alike (alike : Alike text other) : Closes text ↔ Closes other := by
  cases alike with
  | nil => rfl
  | cons similar rest =>
    have slash : '/' ∈ delimiters := by decide
    have star : '*' ∈ delimiters := by decide
    rw [closes_cons,closes_cons,similar.eq_iff star,Alike.head?_eq_iff rest slash]

theorem blankFrom_alike (region : Region) (alike : Alike text other) :
    Alike (blankFrom region text) (blankFrom region other) := by
  have space : Similar ' ' ' ' := .inl rfl
  fun_induction blankFrom region text generalizing other with
  | case1 region =>
    cases alike
    rw [blankFrom]
    exact .nil
  | case2 rest ih =>
    obtain ⟨behind,rfl,next⟩ := alike.cons_delimiter (by decide)
    obtain ⟨behind,rfl,tail⟩ := next.cons_delimiter (by decide)
    exact .cons space (.cons space (ih tail))
  | case3 rest ih =>
    obtain ⟨behind,rfl,next⟩ := alike.cons_delimiter (by decide)
    obtain ⟨behind,rfl,tail⟩ := next.cons_delimiter (by decide)
    exact .cons space (.cons space (ih tail))
  | case4 c rest notLine notBlock ih =>
    have plain : ¬ Opens (c :: rest) := by
      rw [opens_cons]
      cases rest <;> simp_all
    obtain ⟨d,behind,similar,tail,rfl⟩ := List.forall₂_cons_left_iff.mp alike
    rw [blankFrom_code_cons fun opens => plain ((opens_alike alike).mpr opens)]
    exact .cons similar (ih tail)
  | case5 rest ih =>
    obtain ⟨behind,rfl,tail⟩ := alike.cons_delimiter (by decide)
    exact .cons (.inl rfl) (ih tail)
  | case6 c rest inLine ih =>
    obtain ⟨d,behind,similar,tail,rfl⟩ := List.forall₂_cons_left_iff.mp alike
    rw [blankFrom_line_cons fun feed => inLine ((similar.eq_iff (by decide)).mpr feed)]
    exact .cons space (ih tail)
  | case7 rest ih =>
    obtain ⟨behind,rfl,next⟩ := alike.cons_delimiter (by decide)
    obtain ⟨behind,rfl,tail⟩ := next.cons_delimiter (by decide)
    exact .cons space (.cons space (ih tail))
  | case8 c rest notClose ih =>
    have inBlock : ¬ Closes (c :: rest) := by
      rw [closes_cons]
      cases rest <;> simp_all
    obtain ⟨d,behind,similar,tail,rfl⟩ := List.forall₂_cons_left_iff.mp alike
    rw [blankFrom_block_cons fun closes => inBlock ((closes_alike alike).mpr closes)]
    exact .cons space (ih tail)

theorem neutralize_alike (alike : Alike text other) :
    Alike (neutralize text) (neutralize other) := by
  rw [neutralize_eq,neutralize_eq]
  exact blankFrom_alike .code alike

end Comment

namespace Phrase
variable {text other : Text}

theorem spells_alike (alike : Alike text other) (start : Nat) (word : Text) :
    Spells text start word ↔ Spells other start word := by
  unfold Spells
  rw [alike.upper_wordAt?]

theorem standsAt_alike (alike : Alike text other) (phrase : Phrase) (start : Nat) :
    phrase.StandsAt text start ↔ phrase.StandsAt other start := by
  induction phrase generalizing start with
  | nil => rfl
  | cons word words ih =>
    cases words with
    | nil => exact spells_alike alike start word
    | cons next words =>
      rw [StandsAt,StandsAt,spells_alike alike]
      simp only [ih,alike.gaps_iff]

end Phrase

theorem relocates_alike {text other : Text} (alike : Alike text other) : Relocates id text other where
  mono := strictMono_id
  stands := fun phrase _ offset => (Phrase.standsAt_alike alike phrase offset).symm
  onto := fun _ _ place _ => ⟨place,rfl⟩

theorem Text.Alike.sameFeeds {text other : Text} (alike : Alike text other) :
    SameFeeds text other :=
  List.Forall₂.imp (fun _ _ similar => similar.eq_iff (by decide)) alike

/-- Texts that are alike are found to hold the same: the same codes and messages at the same lines and
columns, in the same order. Nothing else about a character counts, so letters are compared in ASCII
alone, no other character is part of a word or a gap, and only a line feed ends a line. -/
theorem lint_similar {text other : Text} (alike : Alike text other) :
    ∃ findings others, lintWith Rule.all text = .ok findings ∧
      lintWith Rule.all other = .ok others ∧
      findings.map Diagnostic.heading = others.map Diagnostic.heading := by
  have reported := reports_relocated (relocates_alike (Comment.neutralize_alike alike))
  simp only [id_eq,Prod.mk.eta,List.map_id'] at reported
  exact ⟨lint text,lint other,(lint_spec text).1,(lint_spec other).1,
    lint_headings alike.sameFeeds reported.symm⟩

/-- Case, gaps and inert characters differ; two of the inert ones fold to ASCII letters elsewhere, and one
ends a line elsewhere. -/
theorem lint_similar_folding :
    let text := "Drop\ttable \u017f\u2028begin\u00a0\u212a".toList
    let other := "dROP TABLE\x0c+?BEGIN\u0085é".toList
    Alike text other ∧ ∃ findings others, lintWith Rule.all text = .ok findings ∧
      lintWith Rule.all other = .ok others ∧
      findings.map Diagnostic.heading = others.map Diagnostic.heading := by
  intro text other
  have alike : Alike text other := by decide +kernel
  exact ⟨alike,lint_similar alike⟩

end SchemaLint
