import SchemaLint.Service.Submission

/-! The framework that the service runs in. It reads requests, leads them to the endpoints, answers on
its own where none is called, and renders what is answered; how it does so is its own to say. Texts
hold no lone surrogates: a framework that meets one reads it as some other character of three bytes,
and may find that a content with that character cannot be rendered.
-/
namespace SchemaLint.Service

inductive Endpoint where
  | health
  | rules
  | version
  | lintText
  | lintFile
  deriving DecidableEq, Repr

def Endpoint.method : Endpoint → Text
  | lintText => "POST".toList
  | lintFile => "POST".toList
  | _ => "GET".toList

def Endpoint.path : Endpoint → Text
  | health => "/api/health".toList
  | rules => "/api/rules".toList
  | version => "/api/version".toList
  | lintText => "/api/lint".toList
  | lintFile => "/api/lint/file".toList

inductive Call where
  | health
  | rules
  | version
  | lintText (submission : Submission)
  | lintFile (upload : Upload)
  deriving DecidableEq, Repr

def Call.endpoint : Call → Endpoint
  | health => .health
  | rules => .rules
  | version => .version
  | lintText _ => .lintText
  | lintFile _ => .lintFile

/-- What a framework answers on its own. The body may be none or no JSON. -/
structure Reply where
  status : Int
  body : Option Json

/-- What becomes of a request on its way: an endpoint is called, an exception is raised outside of the
endpoints, or it is answered without either. -/
inductive Arrival where
  | called (call : Call)
  | raised (failure : Failure)
  | answered (reply : Reply)

structure Framework (Request : Type) where
  method : Request → Text
  path : Request → Text
  /-- The path of the URL, by which an invalid request is told. It may differ from the path. -/
  urlPath : Request → Text
  header? : Request → Text → Option Text
  /-- The text in the body of a request, where the body is as the endpoint declares it. -/
  submission? : Request → Option Submission
  /-- The file in the file field of the form in the body of a request. -/
  upload? : Request → Option Upload
  arrival : Request → Arrival
  /-- The exception that a refusal by an endpoint is raised as. -/
  exception : Refusal → Exception
  /-- What is answered to a failure that the service has no handler for, unless it is let out. -/
  unhandled : Failure → Except Exception Reply
  renderFault? : Json → Option Exception

namespace Framework

variable {Request : Type} (framework : Framework Request)

def Holds (request : Request) : Call → Prop
  | .lintText submission => framework.submission? request = some submission
  | .lintFile upload => framework.upload? request = some upload
  | _ => True

structure Sends (request : Request) (call : Call) : Prop where
  method_eq : framework.method request = call.endpoint.method
  path_eq : framework.path request = call.endpoint.path
  holds : framework.Holds request call

/-- Whether all that is sent to endpoints gets there. -/
def Routes : Prop :=
  ∀ request call, framework.Sends request call → framework.arrival request = .called call

end Framework
end SchemaLint.Service
