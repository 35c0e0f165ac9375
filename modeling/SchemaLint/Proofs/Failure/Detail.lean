import SchemaLint.Proofs.Failure.Markup

/-! The text that is told of a failure. It is never empty nor too long, without markup and without
blanks other than single spaces, and no punctuation stands in front of it. Behind it punctuation may
stand only where it was cut, and a text without any is told again as it is.
-/
namespace SchemaLint.Failure
open Text

structure Neat (text : Text) : Prop where
  unmarked : ¬ HasMarkup text
  spaced : Spaced text
  front : ∀ c, text.head? = some c → isEdge c = false

variable {text : Text}

theorem isEdge_iff (c : Char) : isEdge c = true ↔ c ∈ " .,:;-".toList := by
  have letters : " .,:;-".toList = [' ','.',',',':',';','-'] := rfl
  rw [letters]
  simp [isEdge,or_assoc]

theorem not_hasMarkup_of_notMem (clear : '<' ∉ text) : ¬ HasMarkup text := by
  rintro ⟨inner,-,-,found⟩
  exact clear (found.subset List.mem_cons_self)

theorem neat_cleanText (text : Text) : Neat (cleanText text) where
  unmarked := by
    intro marked
    have collapsed := marked.of_isInfix (trimBy_isInfix isEdge _)
    refine not_hasMarkup_collapseBlanks ?_ collapsed
    intro trimmed
    exact not_hasMarkup_dropMarkup text (trimmed.of_isInfix (trimBy_isInfix isBlank _))
  spaced := (spaced_collapseBlanks _).within (trimBy_isInfix isEdge _)
  front := fun _ first => head?_trimBy first

theorem Neat.take (neat : Neat text) (length : Nat) : Neat (text.take length) where
  unmarked := fun marked => neat.unmarked (marked.of_isInfix (List.take_prefix length text).isInfix)
  spaced := neat.spaced.within (List.take_prefix length text).isInfix
  front := by
    intro c first
    rw [List.head?_take] at first
    split at first
    · cases first
    · exact neat.front c first

/-- Cleaning leaves a neat text that no punctuation stands behind. -/
theorem Neat.cleanText_eq (neat : Neat text)
    (back : ∀ c, text.getLast? = some c → isEdge c = false) : cleanText text = text := by
  have letter (c : Char) (member : c ∈ text) (inner : isEdge c = false) : isBlank c = false := by
    by_contra blank
    rw [Bool.not_eq_false] at blank
    rw [neat.spaced.eq_space c member blank] at inner
    cases inner
  have trimmed : trim text = text := by
    apply trimBy_of_edges
    · intro c first
      exact letter c (List.mem_of_mem_head? first) (neat.front c first)
    · intro c last
      exact letter c (List.mem_of_mem_getLast? last) (back c last)
  unfold cleanText
  rw [dropMarkup_of_not_hasMarkup neat.unmarked,trimmed,collapseBlanks_of_spaced neat.spaced,
    trimBy_of_edges neat.front back]

theorem Neat.tell_eq (neat : Neat text) (given : text ≠ []) (short : text.length ≤ detailLimit)
    (back : ∀ c, text.getLast? = some c → isEdge c = false) (failure : Failure) :
    failure.tell text = text := by
  unfold tell
  rw [neat.cleanText_eq back]
  cases text with
  | nil => exact absurd rfl given
  | cons c text => exact List.take_of_length_le short

theorem isBlank_of_isLetter {c : Char} (letter : ClassName.isLetter c = true) :
    isBlank c = false := by
  have ascii : ∀ code < 0x80, ClassName.isLetter (Char.ofNat code) = true →
      isBlank (Char.ofNat code) = false := by
    decide +kernel
  by_cases early : c.toNat < 0x80
  · have unspaced := ascii c.toNat early
    rw [Char.ofNat_toNat] at unspaced
    exact unspaced letter
  · rw [ClassName.isLetter,if_neg early] at letter
    simpa using letter

theorem isEdge_of_isLetter {c : Char} (letter : ClassName.isLetter c = true) :
    isEdge c = false := by
  by_contra edge
  rw [Bool.not_eq_false,isEdge_iff] at edge
  have others : " .,:;-".toList.all fun c => !ClassName.isLetter c := rfl
  have other := List.all_eq_true.mp others c edge
  rw [letter] at other
  cases other

/-- A failure without a text is told by the name of its class, which is neat and ends in a letter. -/
theorem neat_named (raised : ClassName) : Neat ("Processing error: ".toList ++ raised.name) ∧
    ("Processing error: ".toList ++ raised.name).length ≤ detailLimit ∧
    ∀ c, ("Processing error: ".toList ++ raised.name).getLast? = some c → isEdge c = false := by
  have unspaced : ∀ c ∈ raised.name, isBlank c = false :=
    fun c member => isBlank_of_isLetter (raised.letters c member)
  have apart : raised.name.head? ≠ some ' ' := by
    intro first
    have blank := unspaced ' ' (List.mem_of_mem_head? first)
    cases blank
  have spaced := spaced_of_notBlank unspaced
  refine ⟨⟨not_hasMarkup_of_notMem ?unmarked,?spaced,?head⟩,?short,?last⟩
  case unmarked =>
    intro member
    rcases List.mem_append.mp member with front | named
    · exact absurd front (by decide +kernel)
    · have letter := raised.letters '<' named
      cases letter
  case spaced =>
    have spaces : "Processing error: ".toList.all fun c => !isBlank c || c = ' ' := rfl
    refine Spaced.append ⟨?_,by decide +kernel⟩ spaced apart
    intro c member blank
    have space := List.all_eq_true.mp spaces c member
    rw [blank] at space
    exact of_decide_eq_true space
  case head =>
    intro c first
    obtain rfl : 'P' = c := Option.some.inj first
    rfl
  case short =>
    have short := raised.short
    rw [List.length_append]
    unfold detailLimit
    have front : "Processing error: ".toList.length = 18 := rfl
    omega
  case last =>
    intro c last
    rw [List.getLast?_append_of_ne_nil _ raised.nonempty] at last
    exact isEdge_of_isLetter (raised.letters c (List.mem_of_mem_getLast? last))

theorem tell_cases (failure : Failure) (text : Text) :
    failure.tell text = "Processing error: ".toList ++ failure.raised.className.name ∨
      cleanText text ≠ [] ∧ failure.tell text = (cleanText text).take detailLimit := by
  unfold tell
  split
  · exact .inl rfl
  · next given =>
    refine .inr ⟨?_,rfl⟩
    intro empty
    exact given empty

theorem neat_tell (failure : Failure) (text : Text) : Neat (failure.tell text) := by
  rcases tell_cases failure text with named | ⟨-,cut⟩
  · rw [named]
    exact (neat_named failure.raised.className).1
  · rw [cut]
    exact (neat_cleanText text).take detailLimit

theorem tell_ne_nil (failure : Failure) (text : Text) : failure.tell text ≠ [] := by
  rcases tell_cases failure text with named | ⟨given,cut⟩
  · rw [named]
    simp
  · rw [cut]
    simpa [detailLimit] using given

theorem length_tell_le (failure : Failure) (text : Text) :
    (failure.tell text).length ≤ detailLimit := by
  rcases tell_cases failure text with named | ⟨-,cut⟩
  · rw [named]
    exact (neat_named failure.raised.className).2.1
  · rw [cut]
    exact List.length_take_le _ _

theorem tell_cut {failure : Failure} {c : Char} (last : (failure.tell text).getLast? = some c)
    (edge : isEdge c = true) : (failure.tell text).length = detailLimit ∧
      ∃ more, more ≠ [] ∧ cleanText text = failure.tell text ++ more := by
  rcases tell_cases failure text with named | ⟨-,cut⟩
  · rw [named] at last
    rw [(neat_named failure.raised.className).2.2 c last] at edge
    cases edge
  · rw [cut] at last ⊢
    by_cases whole : (cleanText text).length ≤ detailLimit
    · rw [List.take_of_length_le whole] at last
      have inner := getLast?_trimBy last
      rw [inner] at edge
      cases edge
    · refine ⟨List.length_take_of_le (by omega),(cleanText text).drop detailLimit,?_,?_⟩
      · rw [ne_eq,List.drop_eq_nil_iff]
        exact whole
      · exact (List.take_append_drop detailLimit _).symm

/-- What is told of any failure, whatever its text says. -/
theorem tell_neat_stable (failure : Failure) (text : Text) :
    (failure.tell text ≠ [] ∧ (failure.tell text).length ≤ 320) ∧
    (¬ ∃ inner, inner ≠ [] ∧ '>' ∉ inner ∧ '<' :: (inner ++ ['>']) <:+: failure.tell text) ∧
    ((∀ c ∈ failure.tell text, isBlank c = true → c = ' ') ∧ ¬ [' ',' '] <:+: failure.tell text) ∧
    (∀ c, (failure.tell text).head? = some c → c ∉ " .,:;-".toList) ∧
    (∀ c, (failure.tell text).getLast? = some c → c ∈ " .,:;-".toList →
      (failure.tell text).length = 320 ∧
        ∃ more, more ≠ [] ∧ cleanText text = failure.tell text ++ more) ∧
    ((∀ c, (failure.tell text).getLast? = some c → c ∉ " .,:;-".toList) →
      ∀ other : Failure, other.tell (failure.tell text) = failure.tell text) := by
  have neat := neat_tell failure text
  refine ⟨⟨tell_ne_nil failure text,length_tell_le failure text⟩,neat.unmarked,
    ⟨neat.spaced.eq_space,neat.spaced.no_double⟩,?front,?back,?again⟩
  case front =>
    intro c first edge
    have inner := neat.front c first
    rw [(isEdge_iff c).mpr edge] at inner
    cases inner
  case back =>
    intro c last edge
    exact tell_cut last ((isEdge_iff c).mpr edge)
  case again =>
    intro inner other
    refine neat.tell_eq (tell_ne_nil failure text) (length_tell_le failure text) ?_ other
    intro c last
    rw [← Bool.not_eq_true,isEdge_iff]
    exact inner c last

example : (unforeseen ⟨.valueError,[]⟩).tell "<b>bad</b>\n\n  input.".toList = "bad input".toList := by
  decide +kernel

end SchemaLint.Failure
