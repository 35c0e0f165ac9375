import SchemaLint.Command.Template.Value

/-! What a directive makes of the value that it stands for. Its letter says how the value is spelled,
and its layout how the spelling is cut and filled up.
-/
namespace SchemaLint.Command.Template

inductive Error where
  | nameUnknown (name : Text)
  | nameUnclosed
  | incomplete
  | letterUnknown (letter : Char) (offset : Nat)
  | widthTooBig
  | precisionTooBig
  | tooLong
  | notSize
  | valuesExhausted
  | notNumber (letter : Char) (kind : Text)
  | notInteger (letter : Char) (kind : Text)
  | notFraction (kind : Text)
  | notCharacter
  deriving DecidableEq, Repr

structure Layout where
  leftAligned : Bool
  /-- What stands in front of numbers that are not negative. -/
  sign : Text
  alternate : Bool
  filledWithZeros : Bool
  width : Nat
  precision : Option Nat
  deriving DecidableEq, Repr

namespace Layout

def lengthLimit : Nat := 1099511627776

def filler (layout : Layout) (c : Char) (length : Nat) : Except Error Text :=
  if lengthLimit ≤ layout.width then .error .tooLong
  else .ok (List.replicate (layout.width - length) c)

def fill (layout : Layout) (spelled : Text) : Except Error Text :=
  (layout.filler ' ' spelled.length).map fun filler =>
    if layout.leftAligned then spelled ++ filler else filler ++ spelled

/-- A number, filled up with spaces or with zeros behind what stands in front of its digits. -/
def fillNumber (layout : Layout) (front digits : Text) : Except Error Text :=
  let front := layout.sign ++ front
  if layout.filledWithZeros && !layout.leftAligned then
    (layout.filler '0' (front ++ digits).length).map fun zeros => front ++ zeros ++ digits
  else layout.fill (front ++ digits)

def cut (layout : Layout) (spelled : Text) : Text :=
  match layout.precision with
  | some precision => spelled.take precision
  | none => spelled

def zeros (count : Nat) : Text :=
  List.replicate count '0'

/-- The number zero without places, at least as many digits as the precision asks for. -/
def zeroInteger (layout : Layout) : Text :=
  zeros (max 1 (layout.precision.getD 1))

def zeroFraction (layout : Layout) (places : Nat) : Text :=
  '0' :: (if 0 < places || layout.alternate then '.' :: zeros places else [])

def zeroShort (layout : Layout) : Text :=
  if layout.alternate then layout.zeroFraction (max 1 (layout.precision.getD 6) - 1) else ['0']

/-- How a letter and a layout spell a value; none for a letter that no directive ends with. -/
def spell (layout : Layout) (value : Value) (letter : Char) : Option (Except Error Text) :=
  let integer (front : Text) :=
    if value = .no then layout.fillNumber (if layout.alternate then front else []) layout.zeroInteger
    else .error (.notInteger letter value.kind)
  let whole :=
    if value = .no then layout.fillNumber [] layout.zeroInteger
    else .error (.notNumber letter value.kind)
  let fraction (digits : Text) :=
    if value = .no then layout.fillNumber [] digits else .error (.notFraction value.kind)
  let places := layout.precision.getD 6
  match letter with
  | 's' => some (layout.fill (layout.cut value.spelled))
  | 'r' => some (layout.fill (layout.cut value.quoted))
  | 'a' => some (layout.fill (layout.cut value.asciiQuoted))
  | 'c' => some (if value = .no then layout.fill ['\x00'] else .error .notCharacter)
  | 'd' => some whole
  | 'i' => some whole
  | 'u' => some whole
  | 'o' => some (integer ['0','o'])
  | 'x' => some (integer ['0','x'])
  | 'X' => some (integer ['0','X'])
  | 'f' => some (fraction (layout.zeroFraction places))
  | 'F' => some (fraction (layout.zeroFraction places))
  | 'e' => some (fraction (layout.zeroFraction places ++ "e+00".toList))
  | 'E' => some (fraction (layout.zeroFraction places ++ "E+00".toList))
  | 'g' => some (fraction layout.zeroShort)
  | 'G' => some (fraction layout.zeroShort)
  | _ => none

end Layout
end SchemaLint.Command.Template
