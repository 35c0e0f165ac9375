import SchemaLint.Json.Value

/-! Checking the fields of a record. A record is accepted when all its fields are; otherwise every
faulty field is reported, in the order in which the record lists them.
-/
namespace SchemaLint

inductive Fault where
  | missing
  | notText
  | notAllowed
  | belowOne
  | notInteger
  | notNumeral
  | numeralTooLong
  | notObject
  deriving DecidableEq, Repr

structure FieldError where
  location : List Text
  fault : Fault
  deriving DecidableEq, Repr

/-- A value, or all that is wrong with it. -/
abbrev Checked (α : Type) := Except (List FieldError) α

namespace Checked

def fail {α : Type} (location : List Text) (fault : Fault) : Checked α :=
  .error [⟨location,fault⟩]

def both {α β : Type} : Checked α → Checked β → Checked (α × β)
  | .ok a, .ok b => .ok (a,b)
  | .ok _, .error errors => .error errors
  | .error errors, .ok _ => .error errors
  | .error first, .error second => .error (first ++ second)

def all {α : Type} : List (Checked α) → Checked (List α)
  | [] => .ok []
  | value :: rest => (both value (all rest)).map fun (a,as) => a :: as

end Checked

abbrev Positive := { n : Nat // 1 ≤ n }

namespace Record

def positive (location : List Text) (value : Int) : Checked Positive :=
  if h : 1 ≤ value.toNat then .ok ⟨value.toNat,h⟩ else Checked.fail location .belowOne

def text (location : List Text) : Json → Checked Text
  | .text value => .ok value
  | _ => Checked.fail location .notText

def optionalText (location : List Text) : Json → Checked (Option Text)
  | .null => .ok none
  | .text value => .ok (some value)
  | _ => Checked.fail location .notText

/-- White space around a numeral: blanks, but not the separators among the control characters. -/
def isSpace (c : Char) : Bool :=
  Text.isBlank c && !(0x1C ≤ c.toNat && c.toNat ≤ 0x1F)

def digitLimit : Nat := 4300

def isLeadingDigit (c : Char) : Bool :=
  c.isDigit && c ≠ '0'

/-- A numeral from its first other digit on, behind zeros and underscores of which one was just read.
The zero in front of a point stays, and so does the last character if there is no other. A hyphen may
stand behind zeros as well. -/
def behindZeros (last : Char) : Text → Option Text
  | [] => some [last]
  | c :: rest =>
    if c = '0' || c = '_' then behindZeros c rest
    else if c = '.' then some (last :: c :: rest)
    else if isLeadingDigit c || c = '-' then some (c :: rest)
    else none

/-- A numeral without the zeros in front of it; none where it starts with something else. -/
def withoutZeros : Text → Option Text
  | [] => none
  | c :: rest =>
    if c = '0' then behindZeros c rest
    else if isLeadingDigit c || c = '-' then some (c :: rest)
    else none

/-- A numeral without the point and the zeros behind it. -/
def withoutZeroFraction (numeral : Text) : Text :=
  match numeral.dropWhile (· ≠ '.') with
  | '.' :: c :: rest =>
    if (c :: rest).all (· = '0') then numeral.takeWhile (· ≠ '.') else numeral
  | _ => numeral

def hasDoubleUnderscore : Text → Bool
  | '_' :: '_' :: _ => true
  | _ :: rest => hasDoubleUnderscore rest
  | [] => false

def withoutUnderscores (numeral : Text) : Text :=
  if numeral.head? = some '_' || numeral.getLast? = some '_' || hasDoubleUnderscore numeral then
    numeral
  else numeral.filter (· ≠ '_')

/-- The integer that a numeral in its plain form spells: digits, the first no zero unless alone. -/
def plainInteger (digits : Text) : Except Fault Int :=
  match digits with
  | '0' :: _ :: _ => .error .notNumeral
  | _ =>
    if digitLimit < (digits.takeWhile Char.isDigit).length then .error .numeralTooLong
    else if digits.isEmpty || !digits.all Char.isDigit then .error .notNumeral
    else .ok (Nat.ofDigitChars 10 digits 0)

/-- The integer that a numeral without a sign spells, or one whose sign stands behind zeros if that is
allowed. -/
def unsigned (signAllowed : Bool) (numeral : Text) : Except Fault Int :=
  match (withoutZeros numeral).map fun rest => withoutUnderscores (withoutZeroFraction rest) with
  | none => .error .notNumeral
  | some ('-' :: digits) =>
    if signAllowed then (plainInteger digits).map fun n => -n else .error .notNumeral
  | some digits => plainInteger digits

/-- The integer that a text spells: a sign, digits and a fraction of zeros, between white space. -/
def integerOfText (value : Text) : Except Fault Int :=
  match Text.trimBy isSpace value with
  | '-' :: rest => (unsigned false rest).map fun n => -n
  | '+' :: '-' :: _ => .error .notNumeral
  | '+' :: rest => unsigned true rest
  | rest => unsigned true rest

/-- An integer, or something that stands for one: a truth value or a text that spells it. -/
def integer (location : List Text) : Json → Checked Int
  | .integer value => .ok value
  | .bool value => .ok (if value then 1 else 0)
  | .text value =>
    match integerOfText value with
    | .ok n => .ok n
    | .error fault => Checked.fail location fault
  | _ => Checked.fail location .notInteger

def required {α : Type} (members : List (Text × Json)) (name : Text)
    (check : List Text → Json → Checked α) : Checked α :=
  match Json.member? members name with
  | none => Checked.fail [name] .missing
  | some value => check [name] value

def withDefault {α : Type} (members : List (Text × Json)) (name : Text) (absent : α)
    (check : List Text → Json → Checked α) : Checked α :=
  match Json.member? members name with
  | none => .ok absent
  | some value => check [name] value

end Record
end SchemaLint
