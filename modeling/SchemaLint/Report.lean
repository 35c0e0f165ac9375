import SchemaLint.Diagnostic
import SchemaLint.Issue
import SchemaLint.Text.Decimal

/-! Reports: the decision that findings amount to, and the two lines that each finding is printed as.
-/
namespace SchemaLint

/-- What was decided about a text. It passes when nothing was found in it. -/
structure Decision where
  passed : Bool
  violations : Nat
  codes : List Text
  summary : Text
  deriving DecidableEq, Repr

namespace Decision

def distinct {α : Type} [DecidableEq α] : List α → List α
  | [] => []
  | a :: rest => a :: (distinct rest).filter (· ≠ a)

private def found (violations : Nat) : Text :=
  "Found ".toList ++ Decimal.ofNat violations ++
    (if violations = 1 then " violation".toList else " violations".toList) ++
    ": the file is not safe for declarative apply.".toList

def ofDiagnostics (diagnostics : List Diagnostic) : Decision :=
  match diagnostics with
  | [] =>
    { passed := true, violations := 0, codes := [],
      summary := "No forbidden constructs found.".toList }
  | _ =>
    { passed := false, violations := diagnostics.length,
      codes := (distinct (diagnostics.map (·.code))).map Code.name,
      summary := found diagnostics.length }

def ofIssues (issues : List Issue) : Decision where
  passed := false
  violations := 0
  codes := issues.map (·.code)
  summary := "The request could not be linted.".toList

def status (decision : Decision) : Text :=
  if decision.passed then "ok".toList else "error".toList

def toJson (decision : Decision) : Json :=
  .object
    [("status".toList,.text decision.status),("passed".toList,.bool decision.passed),
      ("violation_count".toList,.integer decision.violations),
      ("codes".toList,.array (decision.codes.map Json.text)),
      ("summary".toList,.text decision.summary)]

end Decision

namespace Diagnostic

def place (diagnostic : Diagnostic) (path : Text) : Text :=
  let position := Decimal.ofNat diagnostic.line ++ ':' :: Decimal.ofNat diagnostic.column
  if path.isEmpty then position else path ++ ':' :: position

def format (diagnostic : Diagnostic) (path : Option Text) : Text :=
  diagnostic.place (path.getD []) ++ ": ".toList ++ diagnostic.code.name ++ ' ' ::
    diagnostic.message ++ "\n    ".toList ++ diagnostic.snippet

def toJson (diagnostic : Diagnostic) : Json :=
  .object
    [("code".toList,.text diagnostic.code.name),("message".toList,.text diagnostic.message),
      ("line".toList,.integer diagnostic.line),("column".toList,.integer diagnostic.column),
      ("snippet".toList,.text diagnostic.snippet)]

end Diagnostic
end SchemaLint
