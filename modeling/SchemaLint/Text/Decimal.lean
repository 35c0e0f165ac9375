import SchemaLint.Text.Blank

/-! Decimal spelling of numbers: no superfluous zeros, and a hyphen in front of a negative number.
-/
namespace SchemaLint.Decimal

def ofNat (n : Nat) : Text :=
  Nat.toDigits 10 n

def ofInt : Int → Text
  | .ofNat n => ofNat n
  | .negSucc n => '-' :: ofNat (n + 1)

theorem isDigit_of_mem_ofNat {n : Nat} {c : Char} (member : c ∈ ofNat n) : c.isDigit = true :=
  Nat.isDigit_of_mem_toDigits (by decide) (by decide) member

theorem ofNat_injective {m n : Nat} (same : ofNat m = ofNat n) : m = n := by
  have read := congrArg (fun digits => Nat.ofDigitChars 10 digits 0) same
  simpa [ofNat,Nat.ofDigitChars_ten_toDigits] using read

theorem notMem_ofNat {c : Char} (other : ¬ c.isDigit = true) (n : Nat) : c ∉ ofNat n :=
  fun member => other (isDigit_of_mem_ofNat member)

end SchemaLint.Decimal
