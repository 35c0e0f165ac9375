import SchemaLint.Text.Lines

/-! Where an offset lies in a text: line, column and the line's trimmed content. Any integer is
accepted as an offset. A negative one counts back from the end for the line, no further than the
start; one beyond the end lies in the last line. The column is counted from the start of that line
to the offset as given, so it is below one exactly for negative offsets.
-/
namespace SchemaLint

structure Position where
  line : Nat
  column : Int
  snippet : Text
  deriving DecidableEq, Repr

namespace Position

/-- The offset in a text of the given length that an integer stands for. -/
def anchor (length : Nat) (offset : Int) : Nat :=
  if offset < 0 then (offset + length).toNat else offset.toNat

/-- The position of an offset in a text of which the length and the lines are given. -/
def within (length : Nat) (lines : List Text.Line) (offset : Int) : Position :=
  let line := Text.lineAt lines (anchor length offset)
  { line := line.number
    column := offset - line.start + 1
    snippet := Text.trim line.content }

def ofOffset (text : Text) (offset : Int) : Position :=
  within text.length (Text.lines text) offset

end Position
end SchemaLint
