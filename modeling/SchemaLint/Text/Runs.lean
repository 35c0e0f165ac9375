import SchemaLint.Text.Blank

/-! Classes of characters given by runs of code points.
-/
namespace SchemaLint.Text

/-- Whether a character is in one of the runs that bounds give: the first code point of each run and
the first behind it, in increasing order. -/
def inRuns (bounds : List Nat) (c : Char) : Bool :=
  match bounds with
  | first :: behind :: rest => first ≤ c.toNat && (c.toNat < behind || inRuns rest c)
  | _ => false

end SchemaLint.Text
