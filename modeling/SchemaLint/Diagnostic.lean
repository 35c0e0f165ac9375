import SchemaLint.Rule.Catalog
import SchemaLint.Position
import SchemaLint.Record

/-! Diagnostics: a construct that must not be there, and where it starts. Lines and columns count
from one.
-/
namespace SchemaLint

structure Diagnostic where
  code : Code
  message : Text
  line : Nat
  column : Nat
  snippet : Text
  line_pos : 1 ≤ line
  column_pos : 1 ≤ column
  deriving DecidableEq, Repr

namespace Diagnostic

/-- What a rule reports at a position. A position left of its line is refused. -/
def ofPosition (rule : Rule) (position : Position) : Checked Diagnostic :=
  match Checked.both (Record.positive ["line".toList] position.line)
      (Record.positive ["column".toList] position.column) with
  | .error errors => .error errors
  | .ok (line,column) => .ok
    { code := rule.code
      message := rule.message
      line := line.1
      column := column.1
      snippet := position.snippet
      line_pos := line.2
      column_pos := column.2 }

private def checkCode (location : List Text) : Json → Checked Code
  | .text name =>
    match Code.ofName? name with
    | some code => .ok code
    | none => Checked.fail location .notAllowed
  | _ => Checked.fail location .notAllowed

private def checkPositive (location : List Text) (value : Json) : Checked Positive :=
  Record.integer location value >>= Record.positive location

/-- Reads a diagnostic from the members of an object. Further members are ignored; without a snippet
it is empty. -/
def ofMembers (members : List (Text × Json)) : Checked Diagnostic :=
  let code := Record.required members "code".toList checkCode
  let message := Record.required members "message".toList Record.text
  let line := Record.required members "line".toList checkPositive
  let column := Record.required members "column".toList checkPositive
  let snippet := Record.withDefault members "snippet".toList [] Record.text
  (Checked.both code (Checked.both message (Checked.both line (Checked.both column snippet)))).map
    fun (code,message,line,column,snippet) =>
      { code, message, line := line.1, column := column.1, snippet,
        line_pos := line.2, column_pos := column.2 }

def atOrBefore (a b : Diagnostic) : Bool :=
  a.line < b.line || (a.line = b.line && a.column ≤ b.column)

end Diagnostic
end SchemaLint
