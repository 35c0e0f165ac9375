import SchemaLint.Numeral
import SchemaLint.Text.Decimal
import SchemaLint.Proofs.Text.Trim
import Mathlib.Data.Nat.Digits.Defs

/-! Numerals as they may be written. A text is read as an integer just if it spells one: a sign or none,
digits of any script with single underscores between them, and white space around it all. What counts
as white space depends on whether the text is all ASCII.
-/
namespace SchemaLint.Numeral

/-- Digits with single underscores between them, and their values in order. -/
inductive Digits : Text → List Nat → Prop
  | last {c : Char} {d : Nat} (digit : DecimalDigit.IsDigit c d) : Digits [c] [d]
  | beside {c : Char} {d : Nat} {rest : Text} {digits : List Nat}
      (digit : DecimalDigit.IsDigit c d) (more : Digits rest digits) :
      Digits (c :: rest) (d :: digits)
  | apart {c : Char} {d : Nat} {rest : Text} {digits : List Nat}
      (digit : DecimalDigit.IsDigit c d) (more : Digits rest digits) :
      Digits (c :: '_' :: rest) (d :: digits)

inductive Signed : Text → Nat → Int → Prop
  | bare (n : Nat) : Signed [] n n
  | plus (n : Nat) : Signed ['+'] n n
  | minus (n : Nat) : Signed ['-'] n (-n)

inductive Spells (space : Char → Bool) (text : Text) (n : Int) : Prop
  | intro (front sign body back : Text) (digits : List Nat)
      (parts : text = front ++ (sign ++ body) ++ back)
      (before : ∀ c ∈ front, space c = true)
      (signed : Signed sign (Nat.ofDigits 10 digits.reverse) n)
      (written : Digits body digits)
      (few : digits.length ≤ 4300)
      (behind : ∀ c ∈ back, space c = true)

/-- The separators of ASCII. They are blanks that no numeral may have around it. -/
def isSeparator (c : Char) : Bool :=
  0x1C ≤ c.toNat && c.toNat ≤ 0x1F

/-- White space of a text: gaps if the text is all ASCII, and characters of a wider class if not. -/
def spaceIn (wide : Char → Bool) (text : Text) (c : Char) : Bool :=
  if text.all (·.toNat < 0x80) then Text.isGap c else wide c

def isWideSpace (c : Char) : Bool :=
  Text.isBlank c && !isSeparator c

section Space
variable {space other : Char → Bool} {text : Text} {c : Char} {n : Int}

theorem isGap_iff_toNat : Text.isGap c = true ↔ 9 ≤ c.toNat ∧ c.toNat ≤ 13 ∨ c.toNat = 32 := by
  simp only [Text.isGap,Bool.or_eq_true,decide_eq_true_eq,← Char.toNat_inj]
  have codes : ' '.toNat = 32 ∧ '\t'.toNat = 9 ∧ '\n'.toNat = 10 ∧ '\r'.toNat = 13 ∧
    '\x0b'.toNat = 11 ∧ '\x0c'.toNat = 12 := by decide
  omega

theorem isSpace_eq_isWideSpace (c : Char) : isSpace c = isWideSpace c := by
  rw [Bool.eq_iff_iff]
  simp only [isSpace,isWideSpace,isSeparator,Text.isBlank,Bool.or_eq_true,Bool.and_eq_true,
    isGap_iff_toNat,decide_eq_true_eq,Bool.not_eq_true',Bool.and_eq_false_iff,decide_eq_false_iff_not]
  omega

theorem isSpace_of_ascii (ascii : c.toNat < 0x80) : isSpace c = Text.isGap c := by
  rw [Bool.eq_iff_iff]
  simp only [isSpace,Text.isBlank,Bool.or_eq_true,Bool.and_eq_true,decide_eq_true_eq,isGap_iff_toNat]
  omega

theorem isSpace_eq_spaceIn (member : c ∈ text) : isSpace c = spaceIn isWideSpace text c := by
  unfold spaceIn
  split
  · next ascii => exact isSpace_of_ascii (by simpa using List.all_eq_true.mp ascii c member)
  · exact isSpace_eq_isWideSpace c

theorem Spells.congr (spells : Spells space text n) (same : ∀ c ∈ text, space c = other c) :
    Spells other text n := by
  obtain ⟨front,sign,body,back,digits,rfl,before,signed,written,few,behind⟩ := spells
  refine ⟨front,sign,body,back,digits,rfl,?_,signed,written,few,?_⟩
  · intro c member
    rw [← same c (by simp [member])]
    exact before c member
  · intro c member
    rw [← same c (by simp [member])]
    exact behind c member

theorem isSpace_eq_false_of_digit {d : Nat} (digit : DecimalDigit.IsDigit c d) :
    isSpace c = false := by
  rw [isSpace_eq_isWideSpace,isWideSpace,digit.isBlank_eq_false,Bool.false_and]

end Space

section Digits
variable {read digits : List Nat} {afterDigit : Bool} {text rest : Text} {c : Char} {d : Nat}

/-- Whether a text goes on with digits. Behind a digit it may also end, or have an underscore first. -/
def Continues (afterDigit : Bool) (text : Text) (digits : List Nat) : Prop :=
  Digits text digits ∨ afterDigit = true ∧
    (text = [] ∧ digits = [] ∨ ∃ rest, text = '_' :: rest ∧ Digits rest digits)

theorem digits_cons_iff : Digits (c :: rest) digits ↔
    ∃ d more, DecimalDigit.IsDigit c d ∧ digits = d :: more ∧ Continues true rest more := by
  constructor
  · intro written
    cases written with
    | last digit => exact ⟨_,[],digit,rfl,.inr ⟨rfl,.inl ⟨rfl,rfl⟩⟩⟩
    | beside digit more => exact ⟨_,_,digit,rfl,.inl more⟩
    | apart digit more => exact ⟨_,_,digit,rfl,.inr ⟨rfl,.inr ⟨_,rfl,more⟩⟩⟩
  · rintro ⟨d,more,digit,rfl,next | ⟨-,⟨rfl,rfl⟩ | ⟨behind,rfl,next⟩⟩⟩
    · exact .beside digit next
    · exact .last digit
    · exact .apart digit next

theorem continues_nil : Continues afterDigit [] digits ↔ afterDigit = true ∧ digits = [] := by
  constructor
  · rintro (written | ⟨behind,⟨-,empty⟩ | ⟨rest,underscore,-⟩⟩)
    · cases written
    · exact ⟨behind,empty⟩
    · cases underscore
  · rintro ⟨behind,empty⟩
    exact .inr ⟨behind,.inl ⟨rfl,empty⟩⟩

theorem continues_of_digit (digit : DecimalDigit.value? c = some d) :
    Continues afterDigit (c :: rest) digits ↔
      ∃ more, Continues true rest more ∧ digits = d :: more := by
  have written : Continues afterDigit (c :: rest) digits ↔ Digits (c :: rest) digits := by
    constructor
    · rintro (written | ⟨-,⟨empty,-⟩ | ⟨behind,underscore,-⟩⟩)
      · exact written
      · cases empty
      · cases underscore
        cases digit.symm.trans (by decide : DecimalDigit.value? '_' = none)
    · exact .inl
  rw [written,digits_cons_iff]
  simp only [← DecimalDigit.value?_eq_some_iff,digit,Option.some.injEq]
  constructor
  · rintro ⟨other,more,rfl,parts,next⟩
    exact ⟨more,next,parts⟩
  · rintro ⟨more,next,parts⟩
    exact ⟨d,more,rfl,parts,next⟩

theorem continues_of_not_digit (other : DecimalDigit.value? c = none) :
    Continues afterDigit (c :: rest) digits ↔
      (c = '_' ∧ afterDigit = true) ∧ Continues false rest digits := by
  constructor
  · rintro (written | ⟨behind,⟨empty,-⟩ | ⟨more,underscore,next⟩⟩)
    · obtain ⟨d,more,digit,-⟩ := digits_cons_iff.mp written
      exact absurd digit (DecimalDigit.not_isDigit other)
    · cases empty
    · cases underscore
      exact ⟨⟨rfl,behind⟩,.inl next⟩
  · rintro ⟨⟨rfl,behind⟩,next | ⟨never,-⟩⟩
    · exact .inr ⟨behind,.inr ⟨rest,rfl,next⟩⟩
    · cases never

theorem digitsFrom_eq_some_iff : digitsFrom read afterDigit text = some digits ↔
    ∃ more, Continues afterDigit text more ∧ digits = read.reverse ++ more := by
  -- Along the text, whatever has been read of it and whether that ended in a digit.
  induction text generalizing read afterDigit with
  | nil => cases afterDigit <;> simp [digitsFrom,continues_nil,eq_comm]
  | cons c rest ih =>
    rw [digitsFrom]
    cases digit : DecimalDigit.value? c with
    | some d =>
      dsimp only
      rw [ih]
      simp [continues_of_digit digit]
    | none =>
      dsimp only
      split
      · next underscore =>
        rw [ih]
        have here : c = '_' ∧ afterDigit = true := by simpa using underscore
        have goes (more : List Nat) :
            Continues afterDigit (c :: rest) more ↔ Continues false rest more :=
          (continues_of_not_digit digit).trans (and_iff_right here)
        simp only [goes]
      · next other =>
        have here : ¬ (c = '_' ∧ afterDigit = true) := by simpa using other
        have stuck (more : List Nat) : ¬ Continues afterDigit (c :: rest) more := fun goes =>
          here ((continues_of_not_digit digit).mp goes).1
        simp [stuck]

theorem digits?_eq_some_iff : digits? text = some digits ↔ Digits text digits := by
  rw [digits?,digitsFrom_eq_some_iff]
  simp [Continues]

theorem value_eq_ofDigits (digits : List Nat) : value digits = Nat.ofDigits 10 digits.reverse := by
  induction digits using List.reverseRecOn with
  | nil => rfl
  | append_singleton digits d ih =>
    unfold value at ih ⊢
    rw [List.foldl_append,ih,List.reverse_append,List.reverse_singleton,List.singleton_append,
      Nat.ofDigits_cons]
    simp only [List.foldl_cons,List.foldl_nil]
    omega

theorem unsigned?_eq_some_iff {n : Nat} : unsigned? text = some n ↔
    ∃ digits, Digits text digits ∧ digits.length ≤ 4300 ∧ Nat.ofDigits 10 digits.reverse = n := by
  unfold unsigned?
  cases found : digits? text with
  | none =>
    have unwritten : ∀ digits, ¬ Digits text digits := by
      intro digits written
      rw [digits?_eq_some_iff.mpr written] at found
      cases found
    simp [unwritten]
  | some digits =>
    have written : ∀ other, Digits text other ↔ digits = other := by
      intro other
      rw [← digits?_eq_some_iff,found,Option.some.injEq]
    simp [written,digitLimit,value_eq_ofDigits]

theorem Digits.head (written : Digits text digits) :
    ∃ c d, text.head? = some c ∧ DecimalDigit.IsDigit c d := by
  cases written with
  | last digit | beside digit more | apart digit more => exact ⟨_,_,rfl,digit⟩

theorem Digits.getLast (written : Digits text digits) :
    ∃ c d, text.getLast? = some c ∧ DecimalDigit.IsDigit c d := by
  induction written with
  | last digit => exact ⟨_,_,rfl,digit⟩
  | beside digit more ih | apart digit more ih =>
    obtain ⟨c,d,last,value⟩ := ih
    refine ⟨c,d,?_,value⟩
    simp [List.getLast?_cons,last]

end Digits

section Integers
variable {space : Char → Bool} {text front sign body back : Text} {digits : List Nat} {m : Nat}
  {n : Int}

theorem trimBy_of_signed (before : ∀ c ∈ front, isSpace c = true) (signed : Signed sign m n)
    (written : Digits body digits) (behind : ∀ c ∈ back, isSpace c = true) :
    Text.trimBy isSpace (front ++ (sign ++ body) ++ back) = sign ++ body := by
  obtain ⟨first,d,head,digit⟩ := written.head
  obtain ⟨final,e,last,finalDigit⟩ := written.getLast
  apply Text.trimBy_between before behind
  · intro empty
    rw [(List.append_eq_nil_iff.mp empty).2] at head
    cases head
  · intro c start
    cases signed with
    | bare n =>
      rw [List.nil_append,head] at start
      cases start
      exact isSpace_eq_false_of_digit digit
    | plus n | minus n =>
      cases start
      decide
  · intro c stop
    rw [List.getLast?_append,last] at stop
    cases stop
    exact isSpace_eq_false_of_digit finalDigit

theorem map_cast_eq_some_iff {found : Option Nat} {sign : Int → Int} :
    Option.map sign (do let m ← found; pure ↑m) = some n ↔ ∃ m : Nat, found = some m ∧ sign m = n := by
  cases found <;> simp

theorem read?_eq_some_iff_signed : read? text = some n ↔ ∃ sign body m,
    Text.trimBy isSpace text = sign ++ body ∧ Signed sign m n ∧ unsigned? body = some m := by
  unfold read?
  constructor
  · intro found
    split at found
    · next rest minus =>
      obtain ⟨m,unsigned,rfl⟩ := map_cast_eq_some_iff.mp found
      exact ⟨['-'],rest,m,minus,.minus m,unsigned⟩
    · next rest plus =>
      obtain ⟨m,unsigned,rfl⟩ := map_cast_eq_some_iff.mp found
      exact ⟨['+'],rest,m,plus,.plus m,unsigned⟩
    · obtain ⟨m,unsigned,rfl⟩ := map_cast_eq_some_iff.mp found
      exact ⟨[],_,m,rfl,.bare m,unsigned⟩
  · rintro ⟨sign,body,m,parts,signed,unsigned⟩
    rw [parts]
    cases signed with
    | plus | minus => simp [unsigned]
    | bare =>
      -- No digit is a sign.
      obtain ⟨digits,written,-⟩ := unsigned?_eq_some_iff.mp unsigned
      obtain ⟨c,d,head,digit⟩ := written.head
      rw [List.nil_append]
      split
      · cases head
        exact absurd digit (DecimalDigit.not_isDigit (by decide))
      · cases head
        exact absurd digit (DecimalDigit.not_isDigit (by decide))
      · simp [unsigned]

theorem read?_eq_some_iff_spells : read? text = some n ↔ Spells isSpace text n := by
  rw [read?_eq_some_iff_signed]
  constructor
  · rintro ⟨sign,body,m,parts,signed,unsigned⟩
    obtain ⟨digits,written,few,rfl⟩ := unsigned?_eq_some_iff.mp unsigned
    obtain ⟨front,back,whole,before,behind⟩ := Text.exists_trimBy isSpace text
    rw [parts] at whole
    exact ⟨front,sign,body,back,digits,whole,before,signed,written,few,behind⟩
  · rintro ⟨front,sign,body,back,digits,rfl,before,signed,written,few,behind⟩
    refine ⟨sign,body,_,trimBy_of_signed before signed written behind,signed,?_⟩
    exact unsigned?_eq_some_iff.mpr ⟨digits,written,few,rfl⟩

/-- What is read is what is spelled, where the text says what white space is. -/
theorem read?_eq_some_iff : read? text = some n ↔ Spells (spaceIn isWideSpace text) text n := by
  rw [read?_eq_some_iff_spells]
  constructor
  · intro spells
    exact spells.congr fun c member => isSpace_eq_spaceIn member
  · intro spells
    exact spells.congr fun c member => (isSpace_eq_spaceIn member).symm

example : read? " +1_0\n".toList = some 10 ∧ read? "1__0".toList = none := by decide

theorem Spells.exists_not_blank (spells : Spells space text n) :
    ∃ c ∈ text, Text.isBlank c = false := by
  obtain ⟨front,sign,body,back,digits,rfl,-,-,written,-,-⟩ := spells
  obtain ⟨c,d,head,digit⟩ := written.head
  have member : c ∈ body := List.mem_of_head? head
  exact ⟨c,by simp [member],digit.isBlank_eq_false⟩

theorem digits_of_isDigit (nonempty : text ≠ []) (ascii : ∀ c ∈ text, c.isDigit = true) :
    Digits text (text.map fun c => c.toNat - '0'.toNat) := by
  induction text with
  | nil => exact absurd rfl nonempty
  | cons c rest ih =>
    have digit := DecimalDigit.isDigit_of_ascii (ascii c List.mem_cons_self)
    cases rest with
    | nil => exact .last digit
    | cons next rest =>
      apply Digits.beside digit
      apply ih (List.cons_ne_nil next rest)
      intro other member
      exact ascii other (List.mem_cons_of_mem c member)

theorem ofDigits_ofNat (n : Nat) :
    Nat.ofDigits 10 ((Decimal.ofNat n).map fun c => c.toNat - '0'.toNat).reverse = n := by
  rw [← value_eq_ofDigits,value,List.foldl_map]
  have read : Nat.ofDigitChars 10 (Decimal.ofNat n) 0 = n := Nat.ofDigitChars_ten_toDigits
  simpa only [Nat.ofDigitChars,Nat.mul_comm] using read

theorem spells_ofInt (n : Int) (few : (Decimal.ofNat n.natAbs).length ≤ 4300) :
    Spells space (Decimal.ofInt n) n := by
  have written : Digits (Decimal.ofNat n.natAbs) _ :=
    digits_of_isDigit Nat.toDigits_ne_nil fun c member => Decimal.isDigit_of_mem_ofNat member
  have signed : ∃ sign, Decimal.ofInt n = sign ++ Decimal.ofNat n.natAbs ∧ Signed sign n.natAbs n := by
    cases n with
    | ofNat m => exact ⟨[],rfl,.bare m⟩
    | negSucc m => exact ⟨['-'],rfl,.minus (m + 1)⟩
  obtain ⟨sign,parts,signed⟩ := signed
  refine ⟨[],sign,_,[],_,by simpa using parts,by simp,?_,written,by simpa using few,by simp⟩
  rwa [ofDigits_ofNat]

end Integers
end SchemaLint.Numeral
