import SchemaLint.Text.Blank

/-! Comments of a text: from two hyphens to the end of the line, or from a slash and a star to the
next star and slash, or to the end of the text. The leftmost opener wins and comments do not nest.
Quoted strings are not recognised, so an opener inside one opens a comment.
-/
namespace SchemaLint.Comment

inductive Region where
  | code
  | line
  | block
  deriving DecidableEq, Repr

/-- The text with every comment character written as a space, read from inside a region. -/
def blankFrom : Region → Text → Text
  | _, [] => []
  | .code, '-' :: '-' :: rest => ' ' :: ' ' :: blankFrom .line rest
  | .code, '/' :: '*' :: rest => ' ' :: ' ' :: blankFrom .block rest
  | .code, c :: rest => c :: blankFrom .code rest
  | .line, '\n' :: rest => '\n' :: blankFrom .code rest
  | .line, _ :: rest => ' ' :: blankFrom .line rest
  | .block, '*' :: '/' :: rest => ' ' :: ' ' :: blankFrom .code rest
  | .block, _ :: rest => ' ' :: blankFrom .block rest

/-- The same walk with its output gathered in reverse, so that long texts need no stack. -/
def blankOnto (out : Text) : Region → Text → Text
  | _, [] => out.reverse
  | .code, '-' :: '-' :: rest => blankOnto (' ' :: ' ' :: out) .line rest
  | .code, '/' :: '*' :: rest => blankOnto (' ' :: ' ' :: out) .block rest
  | .code, c :: rest => blankOnto (c :: out) .code rest
  | .line, '\n' :: rest => blankOnto ('\n' :: out) .code rest
  | .line, _ :: rest => blankOnto (' ' :: out) .line rest
  | .block, '*' :: '/' :: rest => blankOnto (' ' :: ' ' :: out) .code rest
  | .block, _ :: rest => blankOnto (' ' :: out) .block rest

theorem blankOnto_eq (out : Text) (region : Region) (text : Text) :
    blankOnto out region text = out.reverse ++ blankFrom region text := by
  fun_induction blankOnto out region text <;> simp_all [blankFrom]

/-- Every comment character becomes a space, so all offsets stay where they were. -/
def neutralize (text : Text) : Text :=
  blankOnto [] .code text

theorem neutralize_eq (text : Text) : neutralize text = blankFrom .code text := by
  simp [neutralize,blankOnto_eq]

end SchemaLint.Comment
