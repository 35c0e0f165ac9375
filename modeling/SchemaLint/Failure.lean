import SchemaLint.Exception
import SchemaLint.Report
import SchemaLint.Settings
import SchemaLint.Trace

/-! Failures of the service and how they are told. The text of a failure is cleaned before it leaves
the service: markup becomes a space, runs of blanks become one, punctuation at the ends goes, and it
is cut to a length.
-/
namespace SchemaLint

structure Refusal where
  status : Int
  detail : Text
  deriving DecidableEq, Repr

/-- What went wrong, with the exception that it was raised as. -/
inductive Failure where
  | refused (refusal : Refusal) (raised : Exception)
  | invalidRequest (raised : Exception)
  | unforeseen (raised : Exception)
  deriving DecidableEq, Repr

namespace Failure

def raised : Failure → Exception
  | refused _ raised => raised
  | invalidRequest raised => raised
  | unforeseen raised => raised

/-- Puts a space for every piece of markup: a `<`, a character other than `>`, and all up to the next
`>`. The markup read so far is kept in reverse until its end is found. -/
def dropMarkup (out : Text) (markup : Text) : Text → Text
  | [] => (markup ++ out).reverse
  | c :: rest =>
    match markup with
    | [] => if c = '<' then dropMarkup out [c] rest else dropMarkup (c :: out) [] rest
    | [first] =>
      if c = '>' then dropMarkup (c :: first :: out) [] rest else dropMarkup out [c,first] rest
    | _ => if c = '>' then dropMarkup (' ' :: out) [] rest else dropMarkup out (c :: markup) rest

/-- The characters that a told text neither starts nor, unless it is cut, ends with. -/
def isEdge (c : Char) : Bool :=
  c = ' ' || c = '.' || c = ',' || c = ':' || c = ';' || c = '-'

def detailLimit : Nat := 320

def cleanText (text : Text) : Text :=
  Text.trimBy isEdge (Text.collapseBlanks (Text.trim (dropMarkup [] [] text)))

def tell (failure : Failure) (text : Text) : Text :=
  match cleanText text with
  | [] => "Processing error: ".toList ++ failure.raised.className.name
  | clean => clean.take detailLimit

def detail (failure : Failure) : Text :=
  failure.tell failure.raised.message

def occursIn (part : Text) : Text → Bool
  | [] => part.isEmpty
  | c :: rest => part.isPrefixOf (c :: rest) || occursIn part rest

def validationIssue (place hint : Text) : Issue where
  severity := .error
  category := "validation".toList
  code := "request_validation_error".toList
  message := "The request could not be validated.".toList
  source := some place
  hint := some hint

def status : Failure → Int
  | refused refusal _ => refusal.status
  | invalidRequest _ => 422
  | unforeseen _ => 500

def issue (settings : Settings) (place : Text) : Failure → Issue
  | refused refusal _ =>
    if refusal.status = 413 then
      { severity := .error
        category := "validation".toList
        code := "payload_too_large".toList
        message := "The SQL file is too large to lint.".toList
        source := some place
        hint := some ("Split the schema into files under ".toList ++
          Decimal.ofInt settings.maxUploadKb ++ " KB.".toList) }
    else if refusal.status = 400 && occursIn settings.suffix refusal.detail then
      { severity := .error
        category := "validation".toList
        code := "invalid_file_type".toList
        message := "The uploaded file is not a declarative schema file.".toList
        source := some place
        hint := some ("Upload a file ending with ".toList ++ settings.suffix ++ ['.']) }
    else validationIssue place "Check the request body and try again.".toList
  | invalidRequest _ =>
    validationIssue place
      "Send \x7b\"sql\": \"...\"\x7d as JSON, or upload the schema file in the \"file\" form field.".toList
  | unforeseen _ =>
    { severity := .error
      category := Issue.unknownCategory
      code := "internal_error".toList
      message := "Internal service error.".toList
      source := some place
      hint := some
        "Retry the request. If it keeps failing, report the request_id.".toList }

structure Payload where
  status : Int
  detail : Text
  issues : List Issue
  decision : Decision
  trace : Trace
  deriving DecidableEq, Repr

def payload (settings : Settings) (place requestId : Text) (failure : Failure) : Payload :=
  let issues := [failure.issue settings place]
  { status := failure.status
    detail := failure.detail
    issues := issues
    decision := Decision.ofIssues issues
    trace := { requestId := requestId, timings := [] } }

def Payload.toJson (payload : Payload) : Json :=
  .object
    [("error".toList,.text "Failed to lint SQL.".toList),
      ("status".toList,.integer payload.status),
      ("detail".toList,.text payload.detail),
      ("issues".toList,.array (payload.issues.map Issue.toJson)),
      ("decision".toList,payload.decision.toJson),("trace".toList,payload.trace.toJson)]

/-- What is logged of a failure: only what nothing foresees. -/
def log (place requestId : Text) : Failure → List Text
  | unforeseen _ =>
    ["ERROR lpsql_lint.main: Unhandled error in ".toList ++ place ++ " (request_id=".toList ++
      requestId ++ [')']]
  | _ => []

end Failure
end SchemaLint
