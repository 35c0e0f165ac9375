import SchemaLint.Record
import SchemaLint.Text.Decimal

/-! Issues: what keeps the service from linting. Every issue is one of the system's, so its domain is
fixed.
-/
namespace SchemaLint

inductive Severity where
  | error
  | warn
  | info
  deriving DecidableEq, Repr

namespace Severity

def name : Severity → Text
  | error => "error".toList
  | warn => "warn".toList
  | info => "info".toList

def ofName? (text : Text) : Option Severity :=
  [error,warn,info].find? (·.name = text)

end Severity

structure Issue where
  severity : Severity
  category : Text
  code : Text
  message : Text
  source : Option Text
  hint : Option Text
  deriving DecidableEq, Repr

namespace Issue

def domain : Text := "system".toList

def unknownCategory : Text := "unknown".toList

private def checkSeverity (location : List Text) : Json → Checked Severity
  | .text name =>
    match Severity.ofName? name with
    | some severity => .ok severity
    | none => Checked.fail location .notAllowed
  | _ => Checked.fail location .notAllowed

def requiredNames : List Text :=
  ["code".toList,"message".toList]

def optionalNames : List Text :=
  ["source".toList,"category".toList,"severity".toList,"hint".toList]

inductive Error where
  | unexpected (name : Text)
  /-- Members that must be there are not: at least one. -/
  | missing (first : Text) (others : List Text)
  | invalid (errors : List FieldError)
  deriving DecidableEq, Repr

/-- What is told of members that are not the right ones. Faulty values are told field by field. -/
def Error.message? : Error → Option Text
  | unexpected name =>
    some ("make_system_issue() got an unexpected keyword argument '".toList ++ name ++ ['\''])
  | missing first others =>
    let quote (name : Text) : Text := '\'' :: name ++ ['\'']
    let plural := if others.isEmpty then [] else ['s']
    some ("make_system_issue() missing ".toList ++ Decimal.ofNat (others.length + 1) ++
      " required keyword-only argument".toList ++ plural ++ ": ".toList ++ quote first ++
      others.flatMap fun name => " and ".toList ++ quote name)
  | invalid _ => none

def checkValues (members : List (Text × Json)) : Checked Issue :=
  let severity := Record.withDefault members "severity".toList .error checkSeverity
  let category := Record.withDefault members "category".toList unknownCategory Record.text
  let code := Record.required members "code".toList Record.text
  let message := Record.required members "message".toList Record.text
  let source := Record.withDefault members "source".toList none Record.optionalText
  let hint := Record.withDefault members "hint".toList none Record.optionalText
  (Checked.both severity (Checked.both category (Checked.both code (Checked.both message
    (Checked.both source hint))))).map
    fun (severity,category,code,message,source,hint) =>
      { severity, category, code, message, source, hint }

/-- Reads an issue from the members of an object. Only code and message must be there, and there may
be no others than an issue has. -/
def ofMembers (members : List (Text × Json)) : Except Error Issue :=
  match (members.map Prod.fst).find? fun name => !(requiredNames ++ optionalNames).contains name with
  | some name => .error (.unexpected name)
  | none =>
    match requiredNames.filter fun name => (Json.member? members name).isNone with
    | first :: others => .error (.missing first others)
    | [] => (checkValues members).mapError .invalid

def toJson (issue : Issue) : Json :=
  let optional (value : Option Text) : Json := (value.map Json.text).getD .null
  .object
    [("severity".toList,.text issue.severity.name),("domain".toList,.text domain),
      ("category".toList,.text issue.category),("code".toList,.text issue.code),
      ("message".toList,.text issue.message),("source".toList,optional issue.source),
      ("hint".toList,optional issue.hint)]

end Issue
end SchemaLint
