import SchemaLint.Text.Blank

/-! Sets of characters as patterns write them between brackets: characters and ranges, after `!`
those that are left out.
-/
namespace SchemaLint.Glob

structure CharSet where
  negated : Bool
  singles : Text
  ranges : List (Char × Char)
  deriving DecidableEq, Repr

namespace CharSet

def contains (set : CharSet) (c : Char) : Bool :=
  (set.singles.contains c || set.ranges.any fun (low,high) => decide (low ≤ c) && decide (c ≤ high))
    != set.negated

/-- Cuts the text of a set at the hyphens of its ranges. A hyphen makes a range when it has something
before it and, unless the text ends with it, something behind it; the two characters after the hyphen
are passed over before the next is looked for. The text read so far is kept in reverse. -/
def chunksFrom (chunk : Text) (passed : Nat) : Text → List Text
  | [] => [chunk.reverse]
  | c :: rest =>
    match passed with
    | passed + 1 => chunksFrom (c :: chunk) passed rest
    | 0 =>
      if c ≠ '-' then chunksFrom (c :: chunk) 0 rest
      else if rest.isEmpty then [(c :: chunk).reverse]
      else chunk.reverse :: chunksFrom [] 2 rest

/-- The chunks of a set's text. What makes the set a negated one, and the first character of what
follows, begin no range. -/
def chunks (text : Text) : List Text :=
  chunksFrom [] (if text.head? = some '!' then 2 else 1) text

/-- Joins a chunk with those behind it, where the range between them would have no character. -/
def joinEmptyRange (chunk : Text) (behind : List Text) : List Text :=
  match chunk.getLast?, behind with
  | some low, (high :: next) :: others =>
    if high < low then (chunk.dropLast ++ next) :: others else chunk :: behind
  | _, _ => chunk :: behind

def dropEmptyRanges (chunks : List Text) : List Text :=
  chunks.foldr joinEmptyRange []

/-- The ranges between chunks, each from the end of one to the start of the next. -/
def rangesOf : List Text → List (Char × Char)
  | chunk :: next :: others =>
    (chunk.getLast?.bind fun low => next.head?.map fun high => (low,high)).toList ++
      rangesOf (next :: others)
  | _ => []

def ofChunks (negated : Bool) (chunks : List Text) : CharSet where
  negated := negated
  singles :=
    (match chunks with
    | [] :: _ :: _ => ['-']
    | _ => []) ++ chunks.flatten
  ranges := rangesOf chunks

def parse (text : Text) : CharSet :=
  match dropEmptyRanges (chunks text) with
  | ('!' :: chunk) :: others => ofChunks true (chunk :: others)
  | chunks => ofChunks false chunks

end CharSet
end SchemaLint.Glob
