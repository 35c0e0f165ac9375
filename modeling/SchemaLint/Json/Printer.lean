import SchemaLint.Json.Value

/-! Writing JSON. Texts are written with the shortest escapes and only where one is needed: for the
quote, the backslash and the control characters below the space.
-/
namespace SchemaLint.Json

/-- How members and items are set apart: on one line, or each on a line of its own, indented by so
many spaces per level. -/
inductive Layout where
  | compact
  | indented (width : Nat)

namespace Printer

private def hexDigit (n : Nat) : Char :=
  Char.ofNat (if n < 10 then '0'.toNat + n else 'a'.toNat + (n - 10))

def escape (c : Char) : Text :=
  if c = '"' then ['\\','"']
  else if c = '\\' then ['\\','\\']
  else if c = '\n' then ['\\','n']
  else if c = '\r' then ['\\','r']
  else if c = '\t' then ['\\','t']
  else if c = '\x08' then ['\\','b']
  else if c = '\x0c' then ['\\','f']
  else if c.toNat < 0x20 then ['\\','u','0','0',hexDigit (c.toNat / 16),hexDigit (c.toNat % 16)]
  else [c]

def quoted (text : Text) : Text :=
  '"' :: text.flatMap escape ++ ['"']

def lineStart (layout : Layout) (level : Nat) : Text :=
  match layout with
  | .compact => []
  | .indented width => '\n' :: List.replicate (level * width) ' '

def nameEnd (layout : Layout) : Text :=
  match layout with
  | .compact => [':']
  | .indented _ => [':',' ']

def push (text out : Text) : Text :=
  text.reverseAux out

mutual

def value (layout : Layout) (level : Nat) (out : Text) : Json → Text
  | .null => push "null".toList out
  | .bool true => push "true".toList out
  | .bool false => push "false".toList out
  | .integer n => push (toString n).toList out
  | .real literal => push literal out
  | .text content => push (quoted content) out
  | .array [] => push ['[',']'] out
  | .array (item :: rest) =>
    let out := value layout (level + 1) (push (lineStart layout (level + 1)) ('[' :: out)) item
    ']' :: push (lineStart layout level) (items layout (level + 1) out rest)
  | .object [] => push ['\x7b','\x7d'] out
  | .object (member :: rest) =>
    let out := push (lineStart layout (level + 1)) ('\x7b' :: out)
    let out := push (quoted member.1 ++ nameEnd layout) out
    let out := value layout (level + 1) out member.2
    '\x7d' :: push (lineStart layout level) (members layout (level + 1) out rest)

def items (layout : Layout) (level : Nat) (out : Text) : List Json → Text
  | [] => out
  | item :: rest =>
    items layout level (value layout level (push (lineStart layout level) (',' :: out)) item) rest

def members (layout : Layout) (level : Nat) (out : Text) : List (Text × Json) → Text
  | [] => out
  | member :: rest =>
    let out := push (lineStart layout level) (',' :: out)
    let out := push (quoted member.1 ++ nameEnd layout) out
    members layout level (value layout level out member.2) rest

end

end Printer

def print (layout : Layout) (json : Json) : Text :=
  (Printer.value layout 0 [] json).reverse

end SchemaLint.Json
