import SchemaLint.Command.Template.Directive

/-! Templates: texts with values to fill in. A percent sign begins a directive: another one stands for
a percent sign, and else a letter ends it. A name in parentheses tells the value that it stands for;
without a name it stands for all values, which only the first directive can have.
-/
namespace SchemaLint.Command.Template

/-- The name up to the parenthesis that closes it and what follows, behind what is read of it in
reverse, within so many parentheses of its own. -/
def nameFrom (read : Text) (depth : Nat) : Text → Option (Text × Text)
  | [] => none
  | '(' :: rest => nameFrom ('(' :: read) (depth + 1) rest
  | ')' :: rest =>
    match depth with
    | 0 => some (read.reverse,rest)
    | depth + 1 => nameFrom (')' :: read) depth rest
  | c :: rest => nameFrom (c :: read) depth rest

/-- What is left of a directive: the value, unless it is used up, and the text to read. -/
structure Remainder where
  value : Option Value
  rest : Text

def named (values : List (Text × Value)) (all : Option Value) (text : Text) :
    Except Error Remainder :=
  match text with
  | '(' :: more =>
    match nameFrom [] 0 more with
    | none => .error .nameUnclosed
    | some (name,rest) =>
      match values.lookup name with
      | none => .error (.nameUnknown name)
      | some value => .ok ⟨some value,rest⟩
  | _ => .ok ⟨all,text⟩

def isFlag (c : Char) : Bool :=
  c = '-' || c = '+' || c = ' ' || c = '#' || c = '0'

/-- A size in digits, zero if there are none; a star uses up the value as the size. -/
def sized (limit : Nat) (tooBig : Error) (left : Remainder) : Except Error (Nat × Remainder) :=
  match left.rest, left.value with
  | '*' :: _, none => .error .valuesExhausted
  | '*' :: rest, some .no => .ok (0,⟨none,rest⟩)
  | '*' :: _, some _ => .error .notSize
  | text, _ =>
    let digits := text.takeWhile Char.isDigit
    let size := Nat.ofDigitChars 10 digits 0
    if limit < size then .error tooBig
    else .ok (size,{ left with rest := text.drop digits.length })

def widthLimit : Nat := 9223372036854775807
def precisionLimit : Nat := 2147483647

def precise (left : Remainder) : Except Error (Option Nat × Remainder) :=
  match left.rest with
  | '.' :: rest =>
    (sized precisionLimit .precisionTooBig { left with rest := rest }).map fun (size,left) =>
      (some size,left)
  | _ => .ok (none,left)

def skipLength (text : Text) : Text :=
  match text with
  | 'h' :: rest => rest
  | 'l' :: rest => rest
  | 'L' :: rest => rest
  | _ => text

def directive (values : List (Text × Value)) (all : Option Value) (offset : Nat) (text : Text) :
    Except Error (Text × Nat) := do
  let left ← named values all text
  let flags := left.rest.takeWhile isFlag
  let (width,left) ←
    sized widthLimit .widthTooBig { left with rest := left.rest.drop flags.length }
  let (precision,left) ← precise left
  match skipLength left.rest, left.value with
  | [], _ => .error .incomplete
  | _ :: _, none => .error .valuesExhausted
  | letter :: rest, some value =>
    let length := text.length - rest.length
    let layout : Layout :=
      { leftAligned := flags.contains '-'
        sign := if flags.contains '+' then ['+'] else if flags.contains ' ' then [' '] else []
        alternate := flags.contains '#'
        filledWithZeros := flags.contains '0'
        width := width, precision := precision }
    match layout.spell value letter with
    | none => .error (.letterUnknown letter (offset + length - 1))
    | some spelled => spelled.map (·,length)

/-- Fills in a template from an offset on, of which the next `skip` characters are read already. -/
def fillFrom (values : List (Text × Value)) (all : Option Value) (offset skip : Nat) :
    Text → Except Error Text
  | [] => .ok []
  | c :: rest =>
    match skip with
    | skip + 1 => fillFrom values all (offset + 1) skip rest
    | 0 =>
      if c ≠ '%' then (fillFrom values all (offset + 1) 0 rest).map (c :: ·)
      else if rest.head? = some '%' then
        (fillFrom values all (offset + 1) 1 rest).map ('%' :: ·)
      else do
        let (filled,length) ← directive values all (offset + 1) rest
        let others ← fillFrom values none (offset + 1) length rest
        .ok (filled ++ others)

def fill (values : List (Text × Value)) (template : Text) : Except Error Text :=
  fillFrom values (some (Value.ofAll values)) 0 0 template

end SchemaLint.Command.Template
