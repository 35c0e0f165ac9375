import SchemaLint.Text.DecimalDigit

/-! Integers as they are written in settings: a sign or none, then decimal digits of any script with
single underscores between them, and white space around it all.
-/
namespace SchemaLint.Numeral

/-- White space around a numeral: gaps, and the blanks beyond ASCII. -/
def isSpace (c : Char) : Bool :=
  Text.isGap c || (0x7F ≤ c.toNat && Text.isBlank c)

def digitLimit : Nat := 4300

/-- The values of the digits, in order, of a text that has been read up to a digit or not. -/
def digitsFrom (read : List Nat) (afterDigit : Bool) : Text → Option (List Nat)
  | [] => if afterDigit then some read.reverse else none
  | c :: rest =>
    match DecimalDigit.value? c with
    | some d => digitsFrom (d :: read) true rest
    | none => if c = '_' && afterDigit then digitsFrom read false rest else none

def digits? (text : Text) : Option (List Nat) :=
  digitsFrom [] false text

def value (digits : List Nat) : Nat :=
  digits.foldl (fun n d => n * 10 + d) 0

def unsigned? (text : Text) : Option Nat :=
  match digits? text with
  | none => none
  | some digits => if digits.length ≤ digitLimit then some (value digits) else none

def read? (text : Text) : Option Int :=
  match Text.trimBy isSpace text with
  | '-' :: rest => (unsigned? rest).map fun n => -(n : Int)
  | '+' :: rest => (unsigned? rest).map fun n => (n : Int)
  | rest => (unsigned? rest).map fun n => (n : Int)

end SchemaLint.Numeral
