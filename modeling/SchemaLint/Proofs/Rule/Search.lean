import SchemaLint.Rule.Pattern
import SchemaLint.Proofs.Rule.Phrases

/-! The search for the occurrences of a pattern, from a cursor on: what is found at the cursor is
taken and the cursor goes to its end, or else the cursor goes one character further.
-/
namespace SchemaLint.Pattern
open Text

def matchAt? (pattern : Pattern) (text : Text) (start : Nat) : Option Nat :=
  if endsInWord (text.take start) then none else pattern.length? (text.drop start)

def spansBehind (pattern : Pattern) (text : Text) (cursor : Nat) : List Span :=
  pattern.spansFrom (endsInWord (text.take cursor)) cursor 0 [] (text.drop cursor)

theorem spansFrom_found (pattern : Pattern) (inWord : Bool) (pos skip : Nat) (found : List Span)
    (text : Text) : pattern.spansFrom inWord pos skip found text =
      found.reverse ++ pattern.spansFrom inWord pos skip [] text := by
  induction text generalizing inWord pos skip found with
  | nil => simp [spansFrom]
  | cons c text ih =>
    cases skip with
    | succ skip =>
      rw [spansFrom,spansFrom,ih]
    | zero =>
      rw [spansFrom,spansFrom]
      split
      · rename_i n matched
        rw [ih,ih _ _ _ [_]]
        simp
      · rw [ih]

theorem endsInWord_take_succ {text : Text} {pos : Nat} (inside : pos < text.length) :
    endsInWord (text.take (pos + 1)) = isWord text[pos] := by
  rw [List.take_succ_eq_append_getElem inside]
  exact endsInWord_append _ (by simp)

theorem spansFrom_skip (pattern : Pattern) (text : Text) (pos skip : Nat) :
    pattern.spansFrom (endsInWord (text.take pos)) pos skip [] (text.drop pos) =
      pattern.spansBehind text (pos + skip) := by
  induction skip generalizing pos with
  | zero => rfl
  | succ skip ih =>
    rcases Nat.lt_or_ge pos text.length with inside | beyond
    · rw [List.drop_eq_getElem_cons inside,spansFrom,← endsInWord_take_succ inside,ih]
      congr 1
      omega
    · unfold spansBehind
      rw [List.drop_of_length_le beyond,List.drop_of_length_le (by omega)]
      rfl

theorem spansBehind_nil (pattern : Pattern) {text : Text} {cursor : Nat}
    (beyond : text.length ≤ cursor) : pattern.spansBehind text cursor = [] := by
  unfold spansBehind
  rw [List.drop_of_length_le beyond]
  rfl

theorem spansBehind_match {pattern : Pattern} {text : Text} {cursor length : Nat}
    (inside : cursor < text.length) (positive : 0 < length)
    (found : pattern.matchAt? text cursor = some length) :
    pattern.spansBehind text cursor =
      ⟨cursor,cursor + length⟩ :: pattern.spansBehind text (cursor + length) := by
  unfold matchAt? at found
  rw [spansBehind,List.drop_eq_getElem_cons inside,spansFrom,← List.drop_eq_getElem_cons inside,
    found]
  dsimp only
  rw [spansFrom_found,← endsInWord_take_succ inside,spansFrom_skip]
  have next : cursor + 1 + (length - 1) = cursor + length := by omega
  rw [next]
  rfl

theorem spansBehind_none {pattern : Pattern} {text : Text} {cursor : Nat}
    (inside : cursor < text.length) (missing : pattern.matchAt? text cursor = none) :
    pattern.spansBehind text cursor = pattern.spansBehind text (cursor + 1) := by
  unfold matchAt? at missing
  rw [spansBehind,List.drop_eq_getElem_cons inside,spansFrom,← List.drop_eq_getElem_cons inside,
    missing]
  dsimp only
  rw [← endsInWord_take_succ inside]
  rfl

theorem spans_eq (pattern : Pattern) (text : Text) :
    pattern.spans text = pattern.spansBehind text 0 := rfl

def Bounded (pattern : Pattern) : Prop :=
  ∀ text start length, pattern.matchAt? text start = some length →
    0 < length ∧ start + length ≤ text.length

theorem spansBehind_of_missing {pattern : Pattern} {text : Text} {cursor : Nat}
    (missing : ∀ start, cursor ≤ start → pattern.matchAt? text start = none) :
    pattern.spansBehind text cursor = [] := by
  induction left : text.length - cursor generalizing cursor with
  | zero => exact spansBehind_nil pattern (by omega)
  | succ n ih =>
    rw [spansBehind_none (by omega) (missing cursor le_rfl)]
    exact ih (fun start bound => missing start (by omega)) (by omega)

theorem spansBehind_congr {pattern : Pattern} (bounded : pattern.Bounded) {text other : Text}
    {cursor : Nat} (same : ∀ start, cursor ≤ start →
      pattern.matchAt? text start = pattern.matchAt? other start) :
    pattern.spansBehind text cursor = pattern.spansBehind other cursor := by
  induction left : text.length - cursor using Nat.strong_induction_on generalizing cursor with
  | _ n ih =>
    by_cases inside : cursor < text.length ∧ cursor < other.length
    · cases matched : pattern.matchAt? text cursor with
      | none =>
        rw [spansBehind_none inside.1 matched,
          spansBehind_none inside.2 ((same cursor le_rfl).symm.trans matched)]
        exact ih _ (by omega) (fun start bound => same start (by omega)) rfl
      | some length =>
        obtain ⟨positive,-⟩ := bounded _ _ _ matched
        rw [spansBehind_match inside.1 positive matched,
          spansBehind_match inside.2 positive ((same cursor le_rfl).symm.trans matched)]
        rw [ih _ (by omega) (fun start bound => same start (by omega)) rfl]
    · -- Behind the end of either text nothing matches, so nothing does in the other.
      have missing : ∀ start, cursor ≤ start → pattern.matchAt? text start = none := by
        intro start behind
        by_contra present
        obtain ⟨length,found⟩ := Option.ne_none_iff_exists'.mp present
        have first := bounded _ _ _ found
        have second := bounded _ _ _ ((same start behind).symm.trans found)
        omega
      rw [spansBehind_of_missing missing,
        spansBehind_of_missing fun start behind => (same start behind).symm.trans (missing start behind)]

theorem spansBehind_ordered {pattern : Pattern} (bounded : pattern.Bounded) (text : Text)
    (cursor : Nat) : (pattern.spansBehind text cursor).Pairwise (fun a b => a.stop ≤ b.start) ∧
      ∀ span ∈ pattern.spansBehind text cursor, cursor ≤ span.start ∧
        pattern.matchAt? text span.start = some (span.stop - span.start) ∧ span.start < span.stop := by
  induction left : text.length - cursor using Nat.strong_induction_on generalizing cursor with
  | _ n ih =>
    by_cases inside : cursor < text.length
    · cases matched : pattern.matchAt? text cursor with
      | none =>
        rw [spansBehind_none inside matched]
        obtain ⟨ordered,behind⟩ := ih _ (by omega) (cursor + 1) rfl
        refine ⟨ordered,fun span member => ?_⟩
        obtain ⟨later,found,nonempty⟩ := behind span member
        exact ⟨by omega,found,nonempty⟩
      | some length =>
        obtain ⟨positive,-⟩ := bounded _ _ _ matched
        rw [spansBehind_match inside positive matched]
        obtain ⟨ordered,behind⟩ := ih _ (by omega) (cursor + length) rfl
        refine ⟨List.pairwise_cons.mpr ⟨fun span member => (behind span member).1,ordered⟩,?_⟩
        intro span member
        rcases List.mem_cons.mp member with rfl | member
        · refine ⟨le_rfl,?_,Nat.lt_add_of_pos_right positive⟩
          dsimp only
          rw [Nat.add_sub_cancel_left]
          exact matched
        · obtain ⟨later,found,nonempty⟩ := behind span member
          exact ⟨by omega,found,nonempty⟩
    · rw [spansBehind_nil pattern (by omega)]
      exact ⟨.nil,by simp⟩

/-- What holds of a cursor at the start and is kept by every step tells where occurrences start, if
it does so for each step. -/
theorem mem_starts_iff {pattern : Pattern} (bounded : pattern.Bounded) (text : Text)
    (idle starts : Nat → Prop)
    (taken : ∀ cursor length, idle cursor → pattern.matchAt? text cursor = some length →
      starts cursor ∧ (∀ offset, cursor < offset → offset < cursor + length → ¬ starts offset) ∧
        idle (cursor + length))
    (passed : ∀ cursor, idle cursor → pattern.matchAt? text cursor = none →
      ¬ starts cursor ∧ idle (cursor + 1))
    {cursor : Nat} (start : idle cursor) (offset : Nat) :
    offset ∈ (pattern.spansBehind text cursor).map Span.start ↔
      cursor ≤ offset ∧ offset < text.length ∧ starts offset := by
  induction left : text.length - cursor using Nat.strong_induction_on generalizing cursor with
  | _ n ih =>
    by_cases inside : cursor < text.length
    · cases matched : pattern.matchAt? text cursor with
      | none =>
        obtain ⟨notHere,next⟩ := passed cursor start matched
        rw [spansBehind_none inside matched,ih _ (by omega) next rfl]
        constructor
        · rintro ⟨behind,bound,here⟩
          exact ⟨by omega,bound,here⟩
        · rintro ⟨behind,bound,here⟩
          have different : cursor ≠ offset := by
            rintro rfl
            exact notHere here
          exact ⟨by omega,bound,here⟩
      | some length =>
        obtain ⟨positive,-⟩ := bounded _ _ _ matched
        obtain ⟨here,within,next⟩ := taken cursor length start matched
        rw [spansBehind_match inside positive matched,List.map_cons,List.mem_cons,
          ih _ (by omega) next rfl]
        constructor
        · rintro (rfl | ⟨behind,bound,later⟩)
          · exact ⟨le_rfl,inside,here⟩
          · exact ⟨by omega,bound,later⟩
        · rintro ⟨behind,bound,later⟩
          rcases Nat.eq_or_lt_of_le behind with rfl | after
          · exact .inl rfl
          · refine .inr ⟨?_,bound,later⟩
            by_contra short
            exact within offset after (by omega) later
    · rw [spansBehind_nil pattern (by omega)]
      constructor
      · intro member
        cases member
      · rintro ⟨behind,bound,-⟩
        omega

end SchemaLint.Pattern
