import SchemaLint.Text.Printable

/-! Texts quoted in messages. The quotes are single ones, or double ones around a text that has single
quotes and no double ones; what cannot be shown is written as an escape.
-/
namespace SchemaLint.Text.Quoted

def mark (text : Text) : Char :=
  if text.contains '\'' && !text.contains '"' then '"' else '\''

def hexadecimal (width n : Nat) : Text :=
  let digits := Nat.toDigits 16 n
  List.replicate (width - digits.length) '0' ++ digits

def escape (quote c : Char) : Text :=
  if c = quote || c = '\\' then ['\\',c]
  else if c = '\t' then ['\\','t']
  else if c = '\n' then ['\\','n']
  else if c = '\r' then ['\\','r']
  else if isPrintable c then [c]
  else if c.toNat < 0x100 then '\\' :: 'x' :: hexadecimal 2 c.toNat
  else if c.toNat < 0x10000 then '\\' :: 'u' :: hexadecimal 4 c.toNat
  else '\\' :: 'U' :: hexadecimal 8 c.toNat

end Quoted

def quoted (text : Text) : Text :=
  let quote := Quoted.mark text
  quote :: text.flatMap (Quoted.escape quote) ++ [quote]

end SchemaLint.Text
