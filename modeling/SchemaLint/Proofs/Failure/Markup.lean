import SchemaLint.Failure
import SchemaLint.Proofs.Text.Trim

/-! Markup in texts: a `<`, something without a `>`, and a `>`. It is dropped from the left on, and
what stands between or beside the pieces of markup does not come to be markup by that, nor when blanks
are collapsed.
-/
namespace SchemaLint.Failure
open Text

def HasMarkup (text : Text) : Prop :=
  ∃ inner, inner ≠ [] ∧ '>' ∉ inner ∧ '<' :: (inner ++ ['>']) <:+: text

/-- Whether a text goes on as markup behind a `<`. -/
def ClosesMarkup (text : Text) : Prop :=
  text.head? ≠ some '>' ∧ '>' ∈ text

/-- Whether the second text is the first one with a space for every piece of markup. -/
inductive Unmarks : Text → Text → Prop
  | nil : Unmarks [] []
  | markup (inner : Text) {rest out : Text} (given : inner ≠ []) (inside : '>' ∉ inner)
      (tail : Unmarks rest out) : Unmarks ('<' :: (inner ++ '>' :: rest)) (' ' :: out)
  | character (c : Char) {rest out : Text} (plain : ¬ (c = '<' ∧ ClosesMarkup rest))
      (tail : Unmarks rest out) : Unmarks (c :: rest) (c :: out)

variable {text out rest : Text}

theorem closesMarkup_iff : ClosesMarkup text ↔
    ∃ inner rest, inner ≠ [] ∧ '>' ∉ inner ∧ text = inner ++ '>' :: rest := by
  constructor
  · rintro ⟨other,closed⟩
    obtain ⟨inner,rest,rfl,inside⟩ := List.eq_append_cons_of_mem closed
    refine ⟨inner,rest,?_,inside,rfl⟩
    rintro rfl
    exact other rfl
  · rintro ⟨inner,rest,given,inside,rfl⟩
    refine ⟨?_,by simp⟩
    obtain ⟨c,inner,rfl⟩ := List.exists_cons_of_ne_nil given
    rw [List.mem_cons,not_or] at inside
    simpa using Ne.symm inside.1

theorem hasMarkup_cons {c : Char} :
    HasMarkup (c :: text) ↔ c = '<' ∧ ClosesMarkup text ∨ HasMarkup text := by
  rw [closesMarkup_iff]
  constructor
  · rintro ⟨inner,given,inside,found⟩
    rcases List.infix_cons_iff.mp found with ⟨rest,front⟩ | later
    · obtain ⟨rfl,rfl⟩ := List.cons.inj front
      exact .inl ⟨rfl,inner,rest,given,inside,by simp⟩
    · exact .inr ⟨inner,given,inside,later⟩
  · rintro (⟨rfl,inner,rest,given,inside,rfl⟩ | ⟨inner,given,inside,later⟩)
    · exact ⟨inner,given,inside,[],rest,by simp⟩
    · exact ⟨inner,given,inside,later.trans (List.suffix_cons c text).isInfix⟩

theorem HasMarkup.of_isInfix (marked : HasMarkup out) (inside : out <:+: text) : HasMarkup text := by
  obtain ⟨inner,given,clear,found⟩ := marked
  exact ⟨inner,given,clear,found.trans inside⟩

theorem not_hasMarkup_nil : ¬ HasMarkup [] := by
  rintro ⟨inner,-,-,found⟩
  simp at found

theorem dropMarkup_onto (out markup text : Text) :
    dropMarkup out markup text = out.reverse ++ dropMarkup [] markup text := by
  induction text generalizing out markup with
  | nil => simp [dropMarkup]
  | cons c text ih =>
    rcases markup with _ | ⟨first,_ | ⟨second,more⟩⟩
    · by_cases start : c = '<' <;> simp [dropMarkup,start,ih (_ :: _),ih out]
    · by_cases close : c = '>' <;> simp [dropMarkup,close,ih (_ :: _),ih out]
    · by_cases close : c = '>' <;> simp [dropMarkup,close,ih (_ :: _),ih out]

theorem dropMarkup_cons {c : Char} (other : c ≠ '<') (text : Text) :
    dropMarkup [] [] (c :: text) = c :: dropMarkup [] [] text := by
  rw [dropMarkup,if_neg other,dropMarkup_onto]
  rfl

theorem dropMarkup_empty (text : Text) :
    dropMarkup [] [] ('<' :: '>' :: text) = '<' :: '>' :: dropMarkup [] [] text := by
  rw [dropMarkup,if_pos rfl,dropMarkup,if_pos rfl,dropMarkup_onto]
  rfl

theorem dropMarkup_unclosed (markup : Text) (unclosed : '>' ∉ text) :
    dropMarkup [] markup text = markup.reverse ++ text := by
  induction text generalizing markup with
  | nil => simp [dropMarkup]
  | cons c text ih =>
    rw [List.mem_cons,not_or] at unclosed
    have goes := Ne.symm unclosed.1
    rcases markup with _ | ⟨first,_ | ⟨second,more⟩⟩
    · by_cases start : c = '<'
      · simp [dropMarkup,start,ih _ unclosed.2]
      · rw [dropMarkup_cons start,ih [] unclosed.2]
        rfl
    · simp [dropMarkup,goes,ih _ unclosed.2]
    · simp [dropMarkup,goes,ih _ unclosed.2]

theorem dropMarkup_closed (first second : Char) (more : Text) {inner : Text} (inside : '>' ∉ inner)
    (rest : Text) : dropMarkup [] (first :: second :: more) (inner ++ '>' :: rest) =
      ' ' :: dropMarkup [] [] rest := by
  induction inner generalizing first second more with
  | nil =>
    simp only [List.nil_append,dropMarkup,if_true]
    rw [dropMarkup_onto]
    rfl
  | cons c inner ih =>
    rw [List.mem_cons,not_or] at inside
    simp only [List.cons_append,dropMarkup,Ne.symm inside.1,if_false]
    exact ih c first (second :: more) inside.2

theorem dropMarkup_markup {inner : Text} (given : inner ≠ []) (inside : '>' ∉ inner) (rest : Text) :
    dropMarkup [] [] ('<' :: (inner ++ '>' :: rest)) = ' ' :: dropMarkup [] [] rest := by
  obtain ⟨c,inner,rfl⟩ := List.exists_cons_of_ne_nil given
  rw [List.mem_cons,not_or] at inside
  rw [dropMarkup,if_pos rfl,List.cons_append,dropMarkup,if_neg (Ne.symm inside.1)]
  exact dropMarkup_closed c '<' [] inside.2 rest

theorem dropMarkup_plain {c : Char} (plain : ¬ (c = '<' ∧ ClosesMarkup text)) :
    dropMarkup [] [] (c :: text) = c :: dropMarkup [] [] text := by
  by_cases start : c = '<'
  · subst start
    by_cases closed : '>' ∈ text
    · have empty : text.head? = some '>' := by
        by_contra other
        exact plain ⟨rfl,other,closed⟩
      obtain ⟨rest,rfl⟩ := List.head?_eq_some_iff.mp empty
      rw [dropMarkup_empty,dropMarkup_cons (by decide)]
    · rw [dropMarkup_unclosed [] closed,dropMarkup_unclosed]
      · rfl
      · simpa using closed
  · exact dropMarkup_cons start text

theorem unmarks_dropMarkup (text : Text) : Unmarks text (dropMarkup [] [] text) := by
  induction size : text.length using Nat.strong_induction_on generalizing text with
  | _ size ih =>
    cases text with
    | nil => exact .nil
    | cons c text =>
      subst size
      by_cases starts : c = '<' ∧ ClosesMarkup text
      · obtain ⟨rfl,closes⟩ := starts
        obtain ⟨inner,rest,given,inside,rfl⟩ := closesMarkup_iff.mp closes
        rw [dropMarkup_markup given inside]
        have shorter : rest.length < ('<' :: (inner ++ '>' :: rest)).length := by
          simp only [List.length_cons,List.length_append]
          omega
        exact .markup inner given inside (ih _ shorter rest rfl)
      · rw [dropMarkup_plain starts]
        exact .character c starts (ih _ (Nat.lt_succ_self _) text rfl)

theorem Unmarks.mem_close (unmarks : Unmarks text out) (closed : '>' ∈ out) : '>' ∈ text := by
  induction unmarks with
  | nil => exact closed
  | markup inner given inside tail ih => simp
  | character c plain tail ih =>
    rcases List.mem_cons.mp closed with here | later
    · exact List.mem_cons.mpr (.inl here)
    · exact List.mem_cons_of_mem c (ih later)

/-- Where markup is dropped, what is left is none. -/
theorem Unmarks.not_hasMarkup (unmarks : Unmarks text out) : ¬ HasMarkup out := by
  induction unmarks with
  | nil => exact not_hasMarkup_nil
  | markup inner given inside tail ih =>
    rw [hasMarkup_cons]
    simpa using ih
  | @character c rest out plain tail ih =>
    rw [hasMarkup_cons]
    rintro (⟨start,other,closed⟩ | later)
    · refine plain ⟨start,?_,tail.mem_close closed⟩
      intro empty
      obtain ⟨more,rfl⟩ := List.head?_eq_some_iff.mp empty
      cases tail with
      | character _ _ _ => exact other rfl
    · exact ih later

theorem Unmarks.eq_of_not_hasMarkup (unmarks : Unmarks text out) (clear : ¬ HasMarkup text) :
    out = text := by
  induction unmarks with
  | nil => rfl
  | markup inner given inside tail ih =>
    refine absurd (hasMarkup_cons.mpr (.inl ⟨rfl,?_⟩)) clear
    exact closesMarkup_iff.mpr ⟨inner,_,given,inside,rfl⟩
  | character c plain tail ih =>
    rw [ih fun later => clear (hasMarkup_cons.mpr (.inr later))]

theorem not_hasMarkup_dropMarkup (text : Text) : ¬ HasMarkup (dropMarkup [] [] text) :=
  (unmarks_dropMarkup text).not_hasMarkup

theorem dropMarkup_of_not_hasMarkup (clear : ¬ HasMarkup text) : dropMarkup [] [] text = text :=
  (unmarks_dropMarkup text).eq_of_not_hasMarkup clear

theorem mem_close_spacedBehind (blank : Bool) (text : Text) :
    '>' ∈ spacedBehind blank text ↔ '>' ∈ text := by
  induction text generalizing blank with
  | nil => rfl
  | cons c text ih =>
    rw [spacedBehind]
    split
    · next space =>
      have other : '>' ≠ c := by
        rintro rfl
        exact absurd space (by decide)
      cases blank <;> simp [ih,other]
    · simp [ih]

theorem not_hasMarkup_spacedBehind (blank : Bool) (clear : ¬ HasMarkup text) :
    ¬ HasMarkup (spacedBehind blank text) := by
  induction text generalizing blank with
  | nil => exact not_hasMarkup_nil
  | cons c text ih =>
    have later : ¬ HasMarkup text := fun later => clear (hasMarkup_cons.mpr (.inr later))
    rw [spacedBehind]
    split
    · cases blank with
      | true => exact ih true later
      | false =>
        rw [if_neg (by decide),List.singleton_append,hasMarkup_cons]
        simpa using ih true later
    · rw [hasMarkup_cons]
      rintro (⟨rfl,other,closed⟩ | marked)
      · refine clear (hasMarkup_cons.mpr (.inl ⟨rfl,?_,(mem_close_spacedBehind _ _).mp closed⟩))
        intro empty
        obtain ⟨more,rfl⟩ := List.head?_eq_some_iff.mp empty
        exact other rfl
      · exact ih false later marked

theorem not_hasMarkup_collapseBlanks (clear : ¬ HasMarkup text) :
    ¬ HasMarkup (collapseBlanks text) := by
  rw [collapseBlanks_eq]
  exact not_hasMarkup_spacedBehind false clear

end SchemaLint.Failure
