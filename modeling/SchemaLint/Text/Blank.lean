/-! Texts, and the two classes of white space that matter to them.
Gaps may stand between the words of a phrase; blanks, a wider class, are what trimming removes.
-/
namespace SchemaLint

/-- A text is the sequence of its characters; every offset and length counts characters. -/
abbrev Text := List Char

namespace Text

def isGap (c : Char) : Bool :=
  c = ' ' || c = '\t' || c = '\n' || c = '\r' || c = '\x0b' || c = '\x0c'

/-- White space of any script. Zero-width characters and the byte order mark are not blank. -/
def isBlank (c : Char) : Bool :=
  let n := c.toNat
  (0x09 ≤ n && n ≤ 0x0D) || (0x1C ≤ n && n ≤ 0x20) || n = 0x85 || n = 0xA0 || n = 0x1680 ||
    (0x2000 ≤ n && n ≤ 0x200A) || n = 0x2028 || n = 0x2029 || n = 0x202F || n = 0x205F ||
    n = 0x3000

def trimBy (drop : Char → Bool) (text : Text) : Text :=
  ((text.dropWhile drop).reverse.dropWhile drop).reverse

def trim (text : Text) : Text :=
  trimBy isBlank text

/-- Cuts a text at every character of a class; the cuts themselves are dropped. Never empty. -/
def splitBy (cut : Char → Bool) (text : Text) : List Text :=
  let rec go (piece : Text) (done : List Text) : Text → List Text
    | [] => (piece.reverse :: done).reverse
    | c :: rest => if cut c then go [] (piece.reverse :: done) rest else go (c :: piece) done rest
  go [] [] text

/-- Maximal runs of characters outside a class. -/
def fieldsBy (cut : Char → Bool) (text : Text) : List Text :=
  (splitBy cut text).filter (! ·.isEmpty)

def collapseBlanks (text : Text) : Text :=
  let rec go (out : Text) (inRun : Bool) : Text → Text
    | [] => out.reverse
    | c :: rest =>
      if isBlank c then go (if inRun then out else ' ' :: out) true rest
      else go (c :: out) false rest
  go [] false text

end Text
end SchemaLint
