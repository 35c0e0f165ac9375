import SchemaLint.Glob.CharSet

/-! Wildcards: patterns that a whole name has to match, upper and lower case told apart. A star
stands for any characters, a question mark for one, a set in brackets for one of its characters.
-/
namespace SchemaLint.Glob

inductive Piece where
  | star
  | one
  | literal (c : Char)
  | oneOf (set : CharSet)
  deriving DecidableEq, Repr

abbrev Wildcard := List Piece

namespace Wildcard

def isWildcard (text : Text) : Bool :=
  text.any fun c => c = '*' || c = '?' || c = '['

/-- The text of a set, up to the bracket that closes it, and its length with that bracket. A bracket
that comes first, or first behind `!`, does not close it. -/
def setText? (text : Text) : Option (Text × Nat) :=
  let first :=
    match text with
    | '!' :: ']' :: _ => 2
    | '!' :: _ => 1
    | ']' :: _ => 1
    | _ => 0
  let inner := text.take first ++ (text.drop first).takeWhile (· ≠ ']')
  if (text.drop inner.length).isEmpty then none else some (inner,inner.length + 1)

/-- Reads a wildcard whose first `skip` characters are read already. A bracket that is not closed
stands for itself. -/
def parseFrom (skip : Nat) : Text → Wildcard
  | [] => []
  | c :: rest =>
    match skip with
    | skip + 1 => parseFrom skip rest
    | 0 =>
      if c = '*' then .star :: parseFrom 0 rest
      else if c = '?' then .one :: parseFrom 0 rest
      else if c = '[' then
        match setText? rest with
        | some (inner,length) => .oneOf (CharSet.parse inner) :: parseFrom length rest
        | none => .literal c :: parseFrom 0 rest
      else .literal c :: parseFrom 0 rest

def parse (text : Text) : Wildcard :=
  parseFrom 0 text

end Wildcard

namespace Piece

def accepts (c : Char) : Piece → Bool
  | star => false
  | one => true
  | literal d => c = d
  | oneOf set => set.contains c

def restsOf : Text → List Text
  | [] => [[]]
  | c :: rest => (c :: rest) :: restsOf rest

/-- What can be left of a name after a piece, given what can be left before it. The texts are rests
of one name, the longest first. -/
def rests (before : List Text) : Piece → List Text
  | star =>
    match before with
    | [] => []
    | longest :: _ => restsOf longest
  | piece =>
    before.filterMap fun text =>
      match text with
      | [] => none
      | c :: rest => if piece.accepts c then some rest else none

end Piece

namespace Wildcard

def matchesName (wildcard : Wildcard) (name : Text) : Bool :=
  (wildcard.foldl Piece.rests [name]).any List.isEmpty

end Wildcard
end SchemaLint.Glob
