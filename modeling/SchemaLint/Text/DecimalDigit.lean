import SchemaLint.Text.Blank

/-! The decimal digits of all scripts. In each script they are ten characters in a row, from zero to
nine.
-/
namespace SchemaLint.DecimalDigit

def zeros : List Nat :=
  [0x0030,0x0660,0x06F0,0x07C0,0x0966,0x09E6,0x0A66,0x0AE6,0x0B66,0x0BE6,0x0C66,0x0CE6,
    0x0D66,0x0DE6,0x0E50,0x0ED0,0x0F20,0x1040,0x1090,0x17E0,0x1810,0x1946,0x19D0,0x1A80,
    0x1A90,0x1B50,0x1BB0,0x1C40,0x1C50,0xA620,0xA8D0,0xA900,0xA9D0,0xA9F0,0xAA50,0xABF0,
    0xFF10,0x104A0,0x10D30,0x11066,0x110F0,0x11136,0x111D0,0x112F0,0x11450,0x114D0,0x11650,
    0x116C0,0x11730,0x118E0,0x11950,0x11C50,0x11D50,0x11DA0,0x16A60,0x16AC0,0x16B50,
    0x1D7CE,0x1D7D8,0x1D7E2,0x1D7EC,0x1D7F6,0x1E140,0x1E2F0,0x1E950,0x1FBF0]

def value? (c : Char) : Option Nat :=
  (zeros.find? fun first => first ≤ c.toNat && c.toNat ≤ first + 9).map (c.toNat - ·)

theorem value?_lt_ten {c : Char} {d : Nat} (digit : value? c = some d) : d < 10 := by
  simp only [value?,Option.map_eq_some_iff] at digit
  obtain ⟨first,found,rfl⟩ := digit
  have bounds := List.find?_some found
  simp only [Bool.and_eq_true,decide_eq_true_eq] at bounds
  omega

/-- Whether a character is the digit of a script for a number below ten. -/
def IsDigit (c : Char) (d : Nat) : Prop :=
  d < 10 ∧ ∃ first ∈ zeros, c.toNat = first + d

theorem zeros_apart : ∀ first ∈ zeros, ∀ other ∈ zeros,
    first = other ∨ first + 10 ≤ other ∨ other + 10 ≤ first := by
  decide +kernel

theorem value?_eq_some_iff {c : Char} {d : Nat} : value? c = some d ↔ IsDigit c d := by
  constructor
  · intro digit
    refine ⟨value?_lt_ten digit,?_⟩
    simp only [value?,Option.map_eq_some_iff] at digit
    obtain ⟨first,found,rfl⟩ := digit
    have bounds := List.find?_some found
    simp only [Bool.and_eq_true,decide_eq_true_eq] at bounds
    exact ⟨first,List.mem_of_find?_eq_some found,by omega⟩
  · rintro ⟨small,first,member,code⟩
    have within : (first ≤ c.toNat && c.toNat ≤ first + 9) = true := by
      simp only [Bool.and_eq_true,decide_eq_true_eq]
      omega
    cases found : zeros.find? fun other => other ≤ c.toNat && c.toNat ≤ other + 9 with
    | none => exact absurd within (by simpa using List.find?_eq_none.mp found first member)
    | some other =>
      have bounds := List.find?_some found
      simp only [Bool.and_eq_true,decide_eq_true_eq] at bounds
      have apart := zeros_apart first member other (List.mem_of_find?_eq_some found)
      simp only [value?,found,Option.map_some,Option.some.injEq]
      omega

theorem not_isDigit {c : Char} {d : Nat} (other : value? c = none) : ¬ IsDigit c d := by
  intro digit
  rw [← value?_eq_some_iff,other] at digit
  cases digit

theorem isBlank_zeros : ∀ first ∈ zeros, ∀ d < 10, Text.isBlank (Char.ofNat (first + d)) = false := by
  decide +kernel

theorem IsDigit.isBlank_eq_false {c : Char} {d : Nat} (digit : IsDigit c d) :
    Text.isBlank c = false := by
  obtain ⟨small,first,member,code⟩ := digit
  have apart := isBlank_zeros first member d small
  rwa [← code,Char.ofNat_toNat] at apart

theorem isDigit_of_ascii {c : Char} (ascii : c.isDigit = true) : IsDigit c (c.toNat - '0'.toNat) := by
  have bounds : 48 ≤ c.toNat ∧ c.toNat ≤ 57 := Char.isDigit_iff_toNat.mp ascii
  have code : '0'.toNat = 48 := rfl
  rw [code]
  exact ⟨by omega,48,List.mem_cons_self,by omega⟩

end SchemaLint.DecimalDigit
