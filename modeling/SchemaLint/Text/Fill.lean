import SchemaLint.Text.Alphanumeric

/-! Filling lines with text. A line may end at gaps, behind hyphens that join words and around dashes
between words; a piece that is too long for any line is cut.
-/
namespace SchemaLint.Text.Fill

inductive Kind where
  | gap
  | dashes
  | word
  deriving DecidableEq, Repr

def isWordEnd (c : Char) : Bool :=
  isAlphanumeric c || c = '!' || c = '"' || c = '\'' || c = '&' || c = '.' || c = ',' || c = '?'

/-- Whether a dash of two hyphens or more starts here, with a word on both sides. The text before is
given in reverse. -/
def startsDash (before ahead : Text) : Bool :=
  before.head?.any isWordEnd && ['-','-'].isPrefixOf ahead &&
    (ahead.dropWhile (· = '-')).head?.any isAlphanumeric

/-- Whether a line may end behind the hyphen that stands here: it joins two letters or more, perhaps
with a hyphen between them, to as many. The text before is given in reverse. -/
def joinsWords (before ahead : Text) : Bool :=
  (match before with
    | a :: '-' :: b :: _ => isLetter a && isLetter b
    | a :: b :: _ => isLetter a && isLetter b
    | _ => false) &&
  match ahead with
  | '-' :: a :: '-' :: b :: _ => isLetter a && isLetter b
  | '-' :: a :: b :: _ => isLetter a && isLetter b
  | _ => false

def kindAt (before ahead : Text) : Kind :=
  if ahead.head?.any isGap then .gap
  else if startsDash before ahead then .dashes
  else .word

def Kind.goesOn (kind : Kind) (before ahead : Text) : Bool :=
  match kind with
  | gap => ahead.head?.any isGap
  | dashes => ahead.head? = some '-'
  | word => !ahead.head?.any isGap && !startsDash before ahead

/-- Cuts a text into pieces; `piece` is what was read of the first one, in reverse. -/
def piecesFrom (before : Text) (piece : Option (Kind × Text)) : Text → List Text
  | [] => (piece.map fun read => read.2.reverse).toList
  | c :: rest =>
    match piece with
    | none => piecesFrom (c :: before) (some (kindAt before (c :: rest),[c])) rest
    | some (kind,read) =>
      if !kind.goesOn before (c :: rest) then
        read.reverse :: piecesFrom (c :: before) (some (kindAt before (c :: rest),[c])) rest
      else if kind = .word && joinsWords before (c :: rest) then
        (c :: read).reverse :: piecesFrom (c :: before) none rest
      else piecesFrom (c :: before) (some (kind,c :: read)) rest

def pieces (text : Text) : List Text :=
  piecesFrom [] none text

def fits (room : Nat) (piece : Text) : Bool :=
  (piece.drop room).isEmpty

def fitting (room : Nat) : List Text → List Text × List Text
  | [] => ([],[])
  | piece :: rest =>
    if fits room piece then
      let (taken,left) := fitting (room - piece.length) rest
      (piece :: taken,left)
    else ([],piece :: rest)

def lastHyphen? (text : Text) : Option Nat :=
  (text.reverse.findIdx? (· = '-')).map fun k => text.length - 1 - k

/-- Where a piece is cut that is too long for any line: behind the last hyphen that fits and has
something other than hyphens before it, or else where the room ends. -/
def cut (room : Nat) (piece : Text) : Nat :=
  match lastHyphen? (piece.take room) with
  | some place => if (piece.take place).any (· ≠ '-') then place + 1 else room
  | none => room

def dropBlankEnd (line : List Text) : List Text :=
  match line.getLast? with
  | some last => if last.all isBlank then line.dropLast else line
  | none => line

def nextLine (width : Nat) (pieces : List Text) : List Text × List Text :=
  let (taken,left) := fitting width pieces
  match left with
  | [] => (dropBlankEnd taken,[])
  | piece :: rest =>
    if fits width piece then (dropBlankEnd taken,left)
    else
      let place := cut (width - taken.flatten.length) piece
      (dropBlankEnd (taken ++ [piece.take place]),piece.drop place :: rest)

def dropBlankStart (started : Bool) (pieces : List Text) : List Text :=
  match pieces with
  | piece :: rest => if started && piece.all isBlank then rest else pieces
  | [] => []

def linesFrom (width : Nat) (started : Bool) : (atMost : Nat) → (pieces : List Text) → List Text
  | 0, _ => []
  | _, [] => []
  | atMost + 1, pieces =>
    let (line,left) := nextLine width (dropBlankStart started pieces)
    let text := if line.isEmpty then [] else [line.flatten]
    text ++ linesFrom width (started || !line.isEmpty) atMost left

end Fill

def fill (width : Nat) (text : Text) : List Text :=
  Fill.linesFrom width false text.length (Fill.pieces text)

end SchemaLint.Text
