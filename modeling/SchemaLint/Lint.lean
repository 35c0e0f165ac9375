import SchemaLint.ScanContext
import SchemaLint.Text.Newline
import SchemaLint.Text.Utf8

/-! Linting a text or a file: all rules, with the findings in the order in which they stand in the text.
-/
namespace SchemaLint

/-- The findings of the given rules, in the order of the text; findings at one place stay in the
order of the rules. Fails where a rule is refused a place. -/
def lintWith (rules : List Rule) (text : Text) : Checked (List Diagnostic) :=
  match (ScanContext.ofText text).sweepAll rules with
  | (context,.ok ()) => .ok (context.diagnostics.toList.mergeSort Diagnostic.atOrBefore)
  | (_,.error errors) => .error errors

/-- The findings of all rules. No rule is refused a place that it finds in a text. -/
def lint (text : Text) : List Diagnostic :=
  match lintWith Rule.all text with
  | .ok findings => findings
  | .error _ => []

/-- The findings in a file, which is read as text: what is no text in it is replaced, and line ends
of any kind are line feeds. -/
def lintFile (contents : Bytes) : List Diagnostic :=
  lint (Text.universalNewlines (Utf8.decode contents))

end SchemaLint
