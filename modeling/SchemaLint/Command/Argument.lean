import SchemaLint.Text.DecimalDigit
import SchemaLint.Text.Quoted

/-! The arguments of a command line, one by one: what each is by the look of it. Options may be
shortened as long as one option alone fits, and may have their value behind an equals sign. Arguments
are texts, so they hold no lone surrogates, as which bytes that are not UTF-8 would be read.
-/
namespace SchemaLint.Command

inductive Setting where
  | suffix
  | format
  deriving DecidableEq, Repr

inductive Argument where
  | plain (written : Text)
  /-- Behind it all arguments are plain. -/
  | separator
  /-- Asks for help, perhaps with a value, which help does not take. -/
  | help (value : Option Text)
  | setting (setting : Setting) (value : Option Text)
  | unknown (written : Text)
  deriving DecidableEq, Repr

inductive UsageError where
  | ambiguous (written : Text)
  | valueIgnored (value : Text)
  | valueMissing (setting : Setting)
  | formatUnknown (value : Text)
  | pathsMissing
  | argumentsUnknown (written : List Text)
  deriving DecidableEq, Repr

def Setting.name : Setting → Text
  | suffix => "--suffix".toList
  | format => "--format".toList

def helpName : Text := "--help".toList
def separatorName : Text := "--".toList

def longNames : List Text :=
  [helpName,Setting.suffix.name,Setting.format.name]

def UsageError.message : UsageError → Text
  | ambiguous written =>
    "ambiguous option: ".toList ++ written ++ " could match ".toList ++
      ", ".toList.intercalate longNames
  | valueIgnored value =>
    "argument -h/--help: ignored explicit argument ".toList ++ Text.quoted value
  | valueMissing setting =>
    "argument ".toList ++ setting.name ++ ": expected one argument".toList
  | formatUnknown value =>
    "argument --format: invalid choice: ".toList ++ Text.quoted value ++
      " (choose from 'text', 'json')".toList
  | pathsMissing => "the following arguments are required: paths".toList
  | argumentsUnknown written =>
    "unrecognized arguments: ".toList ++ [' '].intercalate written

namespace Argument

/-- The argument as it was written; of options only the name matters. -/
def written : Argument → Text
  | plain text => text
  | separator => separatorName
  | help _ => helpName
  | setting s _ => s.name
  | unknown text => text

def ofName (name : Text) (value : Option Text) : Argument :=
  if name = helpName then help value
  else if name = Setting.suffix.name then setting .suffix value
  else if name = Setting.format.name then setting .format value
  else unknown name

def cutAtEquals (text : Text) : Text × Option Text :=
  (text.takeWhile (· ≠ '='),
    match text.dropWhile (· ≠ '=') with
    | [] => none
    | _ :: value => some value)

/-- The value behind the letter that asks for help, if there is one: letters that ask for help again
are none. -/
def valueBehindHelp : Text → Option Text
  | ['h'] => none
  | 'h' :: c :: rest => valueBehindHelp (c :: rest)
  | value => some value

/-- An option whose name has two hyphens, or the start of one that no other starts with. -/
def ofLong (text : Text) : Except UsageError (Option Argument) :=
  let (name,value) := cutAtEquals text
  match longNames.filter (name.isPrefixOf ·) with
  | [] => .ok none
  | [found] => .ok (some (ofName found value))
  | _ => .error (.ambiguous text)

def ofShort : Text → Option Argument
  | ['-','h'] => some (help none)
  | '-' :: 'h' :: '=' :: value => some (help (valueBehindHelp value))
  | '-' :: 'h' :: value => some (help (valueBehindHelp value))
  | _ => none

def isDecimal (c : Char) : Bool := (DecimalDigit.value? c).isSome

/-- Whether a text is a negative number, whole or with a point. A line feed may follow it. -/
def isNegative (text : Text) : Bool :=
  match text with
  | '-' :: number =>
    let number := if number.getLast? = some '\n' then number.dropLast else number
    match number.dropWhile isDecimal with
    | [] => !number.isEmpty
    | '.' :: places => !places.isEmpty && places.all isDecimal
    | _ => false
  | _ => false

def classify (text : Text) : Except UsageError Argument :=
  match text with
  | '-' :: c :: _ => do
    let option? ← if c = '-' then ofLong text else .ok (ofShort text)
    match option? with
    | some option => .ok option
    | none => .ok (if isNegative text || text.contains ' ' then plain text else unknown text)
  | _ => .ok (plain text)

def classifyAll : List Text → Except UsageError (List Argument)
  | [] => .ok []
  | text :: rest =>
    if text = separatorName then .ok (separator :: rest.map plain)
    else do
      let argument ← classify text
      let others ← classifyAll rest
      .ok (argument :: others)

end Argument
end SchemaLint.Command
