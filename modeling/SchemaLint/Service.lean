import SchemaLint.Lint
import SchemaLint.Service.Framework

/-! The service: it answers requests to lint a text or an uploaded file, and tells its health, its
rules and its version. Failures that its own endpoints meet, and requests that are invalid, are told
as failure payloads; what else fails is left to the framework.
-/
namespace SchemaLint

def Rule.listing : Json :=
  .object
    [("rules_version".toList,.text Rule.setVersion),
      ("rules".toList,.array (Rule.all.map fun rule =>
        .object [("code".toList,.text rule.code.name),("message".toList,.text rule.message)]))]

namespace Service

structure Verdict where
  filename : Option Text
  diagnostics : List Diagnostic
  decision : Decision
  trace : Trace
  deriving DecidableEq, Repr

namespace Verdict

def ofSubmission (requestId : Text) (milliseconds : Int) (submission : Submission) : Verdict :=
  let diagnostics := lint submission.text
  { filename := submission.filename
    diagnostics := diagnostics
    decision := Decision.ofDiagnostics diagnostics
    trace := { requestId := requestId, timings := [("total_ms".toList,milliseconds)] } }

def toJson (verdict : Verdict) : Json :=
  .object
    [("filename".toList,(verdict.filename.map Json.text).getD .null),
      ("rules_version".toList,.text Rule.setVersion),
      ("diagnostics".toList,.array (verdict.diagnostics.map Diagnostic.toJson)),
      ("decision".toList,verdict.decision.toJson),("trace".toList,verdict.trace.toJson)]

def shownName (verdict : Verdict) : Text :=
  match verdict.filename with
  | none => ['-']
  | some [] => ['-']
  | some filename => filename

def record (verdict : Verdict) : Text :=
  "INFO lpsql_lint.main: lint request_id=".toList ++ verdict.trace.requestId ++
    " file=".toList ++ verdict.shownName ++ " violations=".toList ++
    Decimal.ofNat verdict.decision.violations

end Verdict

structure Response where
  status : Int
  requestId : Text
  body : Option Json
  log : List Text

def succeed (requestId : Text) (body : Json) : Response where
  status := 200
  requestId := requestId
  body := some body
  log := []

def fail (settings : Settings) (place requestId : Text) (failure : Failure) : Response where
  status := failure.status
  requestId := requestId
  body := some (failure.payload settings place requestId).toJson
  log := failure.log place requestId

def Reply.response (requestId : Text) (reply : Reply) : Response where
  status := reply.status
  requestId := requestId
  body := reply.body
  log := []

variable {Request : Type} (framework : Framework Request)

/-- The identifier of a request: its own, if it has one that is not empty, or else the fresh one. -/
def Framework.identifier (fresh : Text) (request : Request) : Text :=
  match framework.header? request "X-Request-Id".toList with
  | none => fresh
  | some [] => fresh
  | some own => own

def Framework.deliver (answer : Response) : Except Exception Response :=
  match answer.body.bind framework.renderFault? with
  | some raised => .error raised
  | none => .ok answer

def answer (settings : Settings) (place requestId : Text) (milliseconds : Int)
    (accepted : Except Refusal Submission) : Response :=
  match accepted with
  | .error refusal =>
    fail settings place requestId (.refused refusal (framework.exception refusal))
  | .ok submission =>
    let verdict := Verdict.ofSubmission requestId milliseconds submission
    { status := 200, requestId := requestId, body := some verdict.toJson, log := [verdict.record] }

def Call.answer (settings : Settings) (requestId : Text) (milliseconds : Int) : Call → Response
  | health => succeed requestId (.object [("status".toList,.text "ok".toList)])
  | rules => succeed requestId Rule.listing
  | version =>
    succeed requestId (.object
      [("APP_ENV".toList,.text settings.appEnv),("rules_version".toList,.text Rule.setVersion)])
  | lintText submission =>
    Service.answer framework settings "api_lint".toList requestId milliseconds
      (acceptText settings submission)
  | lintFile upload =>
    Service.answer framework settings "api_lint_file".toList requestId milliseconds
      (acceptUpload settings upload)

/-- Answers a request. A request without an identifier of its own goes by the fresh one, and linting
takes as long as is said. Of what is raised outside of the endpoints, only invalid requests are told
by the service. -/
def respond (settings : Settings) (fresh : Text) (milliseconds : Int) (request : Request) :
    Except Exception Response :=
  let requestId := framework.identifier fresh request
  match framework.arrival request with
  | .called call => framework.deliver (call.answer framework settings requestId milliseconds)
  | .raised (.invalidRequest raised) =>
    framework.deliver
      (fail settings (framework.urlPath request) requestId (.invalidRequest raised))
  | .raised failure => (framework.unhandled failure).map (Reply.response requestId)
  | .answered reply => .ok (reply.response requestId)

end Service
end SchemaLint
