import SchemaLint.Text.Blank
import Mathlib.Data.List.Chain
import Mathlib.Data.List.DropRight

/-! Trimmed texts and single blanks. A trimmed text is a part of the text that neither starts nor ends
with what is dropped; a text whose blanks are collapsed has single spaces and no other blanks. Both
leave a text as it is that is so already.
-/
namespace SchemaLint.Text

variable {drop : Char → Bool} {text : Text}

theorem trimBy_isInfix (drop : Char → Bool) (text : Text) : trimBy drop text <:+: text :=
  (List.rdropWhile_prefix drop _).isInfix.trans (List.dropWhile_suffix drop).isInfix

theorem head?_trimBy {c : Char} (first : (trimBy drop text).head? = some c) : drop c = false := by
  obtain ⟨rest,start⟩ := List.head?_eq_some_iff.mp first
  obtain ⟨back,whole⟩ : trimBy drop text <+: text.dropWhile drop := List.rdropWhile_prefix drop _
  have dropped := List.head?_dropWhile_not drop text
  rw [← whole,start] at dropped
  exact dropped

theorem getLast?_trimBy {c : Char} (last : (trimBy drop text).getLast? = some c) :
    drop c = false := by
  have dropped := List.head?_dropWhile_not drop (text.dropWhile drop).reverse
  unfold trimBy at last
  rw [List.getLast?_reverse] at last
  rw [last] at dropped
  exact dropped

theorem dropWhile_of_head? (front : ∀ c, text.head? = some c → drop c = false) :
    text.dropWhile drop = text := by
  cases text with
  | nil => rfl
  | cons c rest => exact List.dropWhile_cons_of_neg (by simp [front c rfl])

theorem trimBy_of_edges (front : ∀ c, text.head? = some c → drop c = false)
    (back : ∀ c, text.getLast? = some c → drop c = false) : trimBy drop text = text := by
  unfold trimBy
  rw [dropWhile_of_head? front,dropWhile_of_head?,List.reverse_reverse]
  intro c last
  rw [List.head?_reverse] at last
  exact back c last

theorem exists_trimBy (drop : Char → Bool) (text : Text) :
    ∃ front back, text = front ++ trimBy drop text ++ back ∧ (∀ c ∈ front, drop c = true) ∧
      ∀ c ∈ back, drop c = true := by
  refine ⟨text.takeWhile drop,(text.dropWhile drop).rtakeWhile drop,?_,
    fun c inside => List.mem_takeWhile_imp inside,fun c inside => List.mem_rtakeWhile_imp inside⟩
  have parts : trimBy drop text ++ (text.dropWhile drop).rtakeWhile drop = text.dropWhile drop :=
    List.rdropWhile_append_rtakeWhile
  rw [List.append_assoc,parts,List.takeWhile_append_dropWhile]

theorem trimBy_between {front back : Text} (before : ∀ c ∈ front, drop c = true)
    (behind : ∀ c ∈ back, drop c = true) (nonempty : text ≠ [])
    (first : ∀ c, text.head? = some c → drop c = false)
    (last : ∀ c, text.getLast? = some c → drop c = false) :
    trimBy drop (front ++ text ++ back) = text := by
  have start : ∀ c, (text ++ back).head? = some c → drop c = false := by
    rw [List.head?_append_of_ne_nil text nonempty]
    exact first
  have stop : ∀ c, text.reverse.head? = some c → drop c = false := by
    rw [List.head?_reverse]
    exact last
  have dropped : ∀ c ∈ back.reverse, drop c = true := fun c member =>
    behind c (List.mem_reverse.mp member)
  unfold trimBy
  rw [List.append_assoc,List.dropWhile_append_of_pos before,dropWhile_of_head? start,
    List.reverse_append,List.dropWhile_append_of_pos dropped,dropWhile_of_head? stop,
    List.reverse_reverse]

structure Spaced (text : Text) : Prop where
  eq_space : ∀ c ∈ text, isBlank c = true → c = ' '
  apart : text.IsChain fun a b => a = ' ' → b ≠ ' '

theorem Spaced.within {part : Text} (spaced : Spaced text) (inside : part <:+: text) :
    Spaced part where
  eq_space := fun c member => spaced.eq_space c (inside.subset member)
  apart := List.IsChain.infix spaced.apart inside

theorem Spaced.no_double (spaced : Spaced text) : ¬ [' ',' '] <:+: text := by
  intro inside
  have apart := List.IsChain.infix spaced.apart inside
  simp at apart

theorem spaced_nil : Spaced [] :=
  ⟨fun _ member => absurd member List.not_mem_nil,.nil⟩

theorem spaced_cons {c : Char} : Spaced (c :: text) ↔
    (isBlank c = true → c = ' ') ∧ (c = ' ' → text.head? ≠ some ' ') ∧ Spaced text := by
  constructor
  · intro spaced
    refine ⟨spaced.eq_space c List.mem_cons_self,?_,spaced.within (List.suffix_cons c text).isInfix⟩
    intro space first
    exact (List.isChain_cons.mp spaced.apart).1 ' ' first space rfl
  · rintro ⟨blank,apart,spaced⟩
    refine ⟨?_,List.isChain_cons.mpr ⟨?_,spaced.apart⟩⟩
    · rintro d (_ | ⟨_,member⟩)
      · exact blank
      · exact spaced.eq_space d member
    · rintro d first space rfl
      exact apart space first

theorem spaced_of_notBlank (clear : ∀ c ∈ text, isBlank c = false) : Spaced text := by
  induction text with
  | nil => exact spaced_nil
  | cons c text ih =>
    rw [List.forall_mem_cons] at clear
    refine spaced_cons.mpr ⟨?_,?_,ih clear.2⟩
    · intro blank
      rw [clear.1] at blank
      cases blank
    · rintro rfl
      cases clear.1

theorem Spaced.append {back : Text} (spaced : Spaced text) (behind : Spaced back)
    (apart : back.head? ≠ some ' ') : Spaced (text ++ back) := by
  refine ⟨?_,List.isChain_append.mpr ⟨spaced.apart,behind.apart,?_⟩⟩
  · intro c member
    rcases List.mem_append.mp member with front | later
    · exact spaced.eq_space c front
    · exact behind.eq_space c later
  · rintro c - d first - rfl
    exact apart first

/-- A text, perhaps behind a blank, with its runs of blanks as single spaces. -/
def spacedBehind (blank : Bool) : Text → Text
  | [] => []
  | c :: rest =>
    if isBlank c then (if blank then [] else [' ']) ++ spacedBehind true rest
    else c :: spacedBehind false rest

theorem collapseBlanks_go_eq (out : Text) (blank : Bool) (text : Text) :
    collapseBlanks.go out blank text = out.reverse ++ spacedBehind blank text := by
  induction text generalizing out blank with
  | nil => simp [collapseBlanks.go,spacedBehind]
  | cons c text ih =>
    rw [collapseBlanks.go,spacedBehind]
    split
    · cases blank <;> simp [ih]
    · simp [ih]

theorem collapseBlanks_eq (text : Text) : collapseBlanks text = spacedBehind false text := by
  simp [collapseBlanks,collapseBlanks_go_eq]

theorem spaced_spacedBehind (blank : Bool) (text : Text) : Spaced (spacedBehind blank text) ∧
    (blank = true → (spacedBehind blank text).head? ≠ some ' ') := by
  induction text generalizing blank with
  | nil => exact ⟨spaced_nil,fun _ => by simp [spacedBehind]⟩
  | cons c text ih =>
    rw [spacedBehind]
    split
    · next space =>
      obtain ⟨spaced,apart⟩ := ih true
      cases blank with
      | true => exact ⟨spaced,apart⟩
      | false => exact ⟨spaced_cons.mpr ⟨fun _ => rfl,fun _ => apart rfl,spaced⟩,by simp⟩
    · next letter =>
      have other : c ≠ ' ' := by
        rintro rfl
        exact letter rfl
      refine ⟨spaced_cons.mpr ⟨fun space => absurd space letter,fun space => absurd space other,
        (ih false).1⟩,?_⟩
      simpa using fun _ => other

theorem spaced_collapseBlanks (text : Text) : Spaced (collapseBlanks text) := by
  rw [collapseBlanks_eq]
  exact (spaced_spacedBehind false text).1

theorem spacedBehind_of_spaced {blank : Bool} (spaced : Spaced text)
    (apart : blank = true → text.head? ≠ some ' ') : spacedBehind blank text = text := by
  induction text generalizing blank with
  | nil => rfl
  | cons c text ih =>
    obtain ⟨eq_space,next,rest⟩ := spaced_cons.mp spaced
    rw [spacedBehind]
    split
    · next space =>
      obtain rfl := eq_space space
      have single : ¬ blank = true := fun behind => apart behind rfl
      rw [if_neg single,ih rest fun _ => next rfl]
      rfl
    · rw [ih rest (by simp)]

theorem collapseBlanks_of_spaced (spaced : Spaced text) : collapseBlanks text = text := by
  rw [collapseBlanks_eq]
  exact spacedBehind_of_spaced spaced (by simp)

end SchemaLint.Text
