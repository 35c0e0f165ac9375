import SchemaLint.Text.Quoted

/-! What templates have filled in, and how it is spelled.
-/
namespace SchemaLint.Command.Template

inductive Value where
  | text (value : Text)
  | texts (values : List Text)
  /-- Counts as the number zero. -/
  | no
  | absent
  /-- Values with their names, as they are spelled together. -/
  | record (spelled : Text)
  | group
  deriving DecidableEq, Repr

namespace Value

def kind : Value → Text
  | text _ => "str".toList
  | texts _ => "list".toList
  | no => "bool".toList
  | absent => "NoneType".toList
  | record _ => "dict".toList
  | group => "_ArgumentGroup".toList

def quoted : Value → Text
  | text value => Text.quoted value
  | texts values => '[' :: ", ".toList.intercalate (values.map Text.quoted) ++ [']']
  | no => "False".toList
  | absent => "None".toList
  | record spelled => spelled
  | group => "<argparse._ArgumentGroup object>".toList

def spelled : Value → Text
  | text value => value
  | other => other.quoted

/-- The quoted spelling with escapes for all that is not ASCII. -/
def asciiQuoted (value : Value) : Text :=
  value.quoted.flatMap fun c =>
    if c.toNat < 0x80 then [c]
    else if c.toNat < 0x100 then '\\' :: 'x' :: Text.Quoted.hexadecimal 2 c.toNat
    else if c.toNat < 0x10000 then '\\' :: 'u' :: Text.Quoted.hexadecimal 4 c.toNat
    else '\\' :: 'U' :: Text.Quoted.hexadecimal 8 c.toNat

def ofAll (values : List (Text × Value)) : Value :=
  .record ('\x7b' :: ", ".toList.intercalate
    (values.map fun (name,value) => Text.quoted name ++ ": ".toList ++ value.quoted) ++ ['\x7d'])

end Value
end SchemaLint.Command.Template
