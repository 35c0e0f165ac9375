import SchemaLint.Text.Lowercase
import Mathlib.Data.List.Infix

/-! Texts in lower case. Whether a text is in lower case is told by its characters one by one, so a text
that ends in lower case keeps its end; one that ends otherwise has another end in lower case, since
no character becomes a dotted capital I and all others keep their number.
-/
namespace SchemaLint.Text

def IsLower (c : Char) : Prop :=
  c ≠ 'Σ' ∧ c ≠ 'İ' ∧ lowerChar c = c

def lowerBetween (before : Text) (c : Char) (rest : Text) : Text :=
  if c = 'Σ' then [if startsCased before && !startsCased rest then 'ς' else 'σ']
  else if c = 'İ' then ['i','\u0307']
  else [lowerChar c]

theorem lowerBehind_cons (before : Text) (c : Char) (rest : Text) : lowerBehind before (c :: rest) =
    lowerBetween before c rest ++ lowerBehind (c :: before) rest := rfl

theorem lowerBetween_sigma (before rest : Text) :
    lowerBetween before 'Σ' rest = ['ς'] ∨ lowerBetween before 'Σ' rest = ['σ'] := by
  unfold lowerBetween
  rw [if_pos rfl]
  split
  · exact .inl rfl
  · exact .inr rfl

theorem lowerBetween_other {c : Char} (notSigma : c ≠ 'Σ') (notDotted : c ≠ 'İ')
    (before rest : Text) : lowerBetween before c rest = [lowerChar c] := by
  unfold lowerBetween
  rw [if_neg notSigma,if_neg notDotted]

theorem eq_of_ofNat_dotted {n : Nat} (dotted : Char.ofNat n = 'İ') : n = 0x130 := by
  by_cases valid : n.isValidChar
  · rw [Char.ofNat,dif_pos valid] at dotted
    exact congrArg Char.toNat dotted
  · rw [Char.ofNat,dif_neg valid] at dotted
    exact absurd dotted (by decide)

theorem lowerChar_ne_dotted {c : Char} (notDotted : c ≠ 'İ') : lowerChar c ≠ 'İ' := by
  have apart : ∀ run ∈ capitalRuns,
      run.lower + (run.last - run.first) < 0x130 ∨ 0x130 < run.lower := by decide +kernel
  unfold lowerChar
  split
  · next run found =>
    have inside := List.find?_some found
    have place := apart run (List.mem_of_find?_eq_some found)
    simp only [CapitalRun.contains,Bool.and_eq_true,decide_eq_true_eq] at inside
    intro dotted
    have number := eq_of_ofNat_dotted dotted
    omega
  · exact notDotted

theorem dotted_notMem_lowerBehind (before text : Text) : 'İ' ∉ lowerBehind before text := by
  induction text generalizing before with
  | nil => simp [lowerBehind]
  | cons c rest ih =>
    rw [lowerBehind_cons,List.mem_append,not_or]
    refine ⟨?_,ih (c :: before)⟩
    by_cases notSigma : c = 'Σ'
    · subst notSigma
      rcases lowerBetween_sigma before rest with put | put <;> simp [put]
    · by_cases notDotted : c = 'İ'
      · subst notDotted
        simp [lowerBetween]
      · rw [lowerBetween_other notSigma notDotted,List.mem_singleton]
        exact (lowerChar_ne_dotted notDotted).symm

theorem length_lowerBehind {text : Text} (plain : 'İ' ∉ text) (before : Text) :
    (lowerBehind before text).length = text.length := by
  induction text generalizing before with
  | nil => rfl
  | cons c rest ih =>
    rw [List.mem_cons,not_or] at plain
    rw [lowerBehind_cons,List.length_append,ih plain.2,List.length_cons]
    by_cases notSigma : c = 'Σ'
    · subst notSigma
      rcases lowerBetween_sigma before rest with put | put
      all_goals
        rw [put,List.length_singleton]
        omega
    · rw [lowerBetween_other notSigma (Ne.symm plain.1),List.length_singleton]
      omega

theorem lowerBehind_append (before front back : Text) : ∃ lead,
    lowerBehind before (front ++ back) = lead ++ lowerBehind (front.reverse ++ before) back := by
  induction front generalizing before with
  | nil => exact ⟨[],rfl⟩
  | cons c front ih =>
    obtain ⟨lead,parts⟩ := ih (c :: before)
    refine ⟨lowerBetween before c (front ++ back) ++ lead,?_⟩
    rw [List.cons_append,lowerBehind_cons,parts]
    simp

theorem lowerBehind_eq_iff (before text : Text) :
    lowerBehind before text = text ↔ ∀ c ∈ text, IsLower c := by
  induction text generalizing before with
  | nil => simp [lowerBehind]
  | cons c rest ih =>
    rw [lowerBehind_cons,List.forall_mem_cons,← ih (c :: before)]
    by_cases notSigma : c = 'Σ'
    · subst notSigma
      rcases lowerBetween_sigma before rest with put | put <;> simp [put,IsLower]
    · by_cases notDotted : c = 'İ'
      · subst notDotted
        simp [lowerBetween,IsLower]
      · rw [lowerBetween_other notSigma notDotted]
        simp [IsLower,notSigma,notDotted]

/-- A name keeps a suffix in lower case just if the suffix is in lower case. -/
theorem suffix_lower_append_iff (front suffix : Text) :
    suffix <:+ lower (front ++ suffix) ↔ lower suffix = suffix := by
  obtain ⟨lead,parts⟩ := lowerBehind_append [] front suffix
  unfold lower
  rw [parts,lowerBehind_eq_iff [] suffix,← lowerBehind_eq_iff (front.reverse ++ []) suffix]
  constructor
  · intro ends
    have plain : 'İ' ∉ suffix := by
      intro dotted
      rw [← parts] at ends
      exact dotted_notMem_lowerBehind [] _ (ends.subset dotted)
    have size := length_lowerBehind plain (front.reverse ++ [])
    have same := List.suffix_of_suffix_length_le ends (List.suffix_append lead _) size.ge
    exact (same.eq_of_length size.symm).symm
  · intro same
    rw [same]
    exact List.suffix_append lead suffix

end SchemaLint.Text
