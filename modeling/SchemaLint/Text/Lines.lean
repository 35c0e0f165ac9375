import SchemaLint.Text.Blank

/-! The lines of a text. Only the line feed ends a line, and it belongs to the line that it ends. A
text has one line more than it has line feeds.
-/
namespace SchemaLint.Text

/-- A line, counted from one, with the offset of its first character and that of the line feed, or
end of text, behind its last one. -/
structure Line where
  number : Nat
  start : Nat
  stop : Nat
  content : Text
  deriving DecidableEq, Repr

/-- The lines of the text that starts at offset `pos` within a line of which `read` is already
known, in reverse. -/
def linesFrom (done : List Line) (number start pos : Nat) (read : Text) : Text → List Line
  | [] => (⟨number,start,pos,read.reverse⟩ :: done).reverse
  | c :: rest =>
    if c = '\n' then
      linesFrom (⟨number,start,pos,read.reverse⟩ :: done) (number + 1) (pos + 1) (pos + 1) [] rest
    else linesFrom done number start (pos + 1) (c :: read) rest

def lines (text : Text) : List Line :=
  linesFrom [] 1 0 0 [] text

def lineAt : (lines : List Line) → (offset : Nat) → Line
  | [], _ => ⟨1,0,0,[]⟩
  | [last], _ => last
  | line :: next :: more, offset =>
    if offset ≤ line.stop then line else lineAt (next :: more) offset

end SchemaLint.Text
