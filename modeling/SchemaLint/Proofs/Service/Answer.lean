import SchemaLint.Service
import SchemaLint.Proofs.Decision
import SchemaLint.Proofs.Lint

/-! What the service answers. An answer either reports the findings in a text or refuses with one
issue. A small framework, of requests that have been read, stands in where one is asked for.
-/
namespace SchemaLint.Service

/-- Whether a response refuses with a status, on account of one issue of a code. -/
structure Response.Refuses (response : Response) (status : Int) (code : Text) : Prop where
  status_eq : response.status = status
  told : ∃ (payload : Failure.Payload) (issue : Issue), response.body = some payload.toJson ∧
    payload.status = status ∧ payload.issues = [issue] ∧ issue.code = code ∧
    payload.decision.passed = false ∧ payload.decision.codes = [code] ∧
    payload.trace.requestId = response.requestId

structure Response.Reports (response : Response) (filename : Option Text) (text : Text) : Prop where
  status_eq : response.status = 200
  told : ∃ verdict : Verdict, response.body = some verdict.toJson ∧ verdict.filename = filename ∧
    lintWith Rule.all text = .ok verdict.diagnostics ∧
    verdict.decision.Concludes verdict.diagnostics ∧
    verdict.trace.requestId = response.requestId

structure Framework.Renders {Request : Type} (framework : Framework Request) : Prop where
  verdict : ∀ verdict : Verdict, framework.renderFault? verdict.toJson = none
  payload : ∀ payload : Failure.Payload, framework.renderFault? payload.toJson = none

variable {Request : Type} {framework : Framework Request}

theorem respond_called {request : Request} {call : Call}
    (arrives : framework.arrival request = .called call) (settings : Settings) (fresh : Text)
    (milliseconds : Int) : respond framework settings fresh milliseconds request =
      framework.deliver
        (call.answer framework settings (framework.identifier fresh request) milliseconds) := by
  unfold respond
  dsimp only
  rw [arrives]

theorem respond_invalid {request : Request} {raised : Exception}
    (arrives : framework.arrival request = .raised (.invalidRequest raised)) (settings : Settings)
    (fresh : Text) (milliseconds : Int) : respond framework settings fresh milliseconds request =
      framework.deliver (fail settings (framework.urlPath request)
        (framework.identifier fresh request) (.invalidRequest raised)) := by
  unfold respond
  dsimp only
  rw [arrives]

theorem respond_refused {request : Request} {refusal : Refusal} {raised : Exception}
    (arrives : framework.arrival request = .raised (.refused refusal raised)) (settings : Settings)
    (fresh : Text) (milliseconds : Int) : respond framework settings fresh milliseconds request =
      (framework.unhandled (.refused refusal raised)).map
        (Reply.response (framework.identifier fresh request)) := by
  unfold respond
  dsimp only
  rw [arrives]

theorem fail_refuses (settings : Settings) (place requestId : Text) (failure : Failure) :
    (fail settings place requestId failure).Refuses failure.status
      (failure.issue settings place).code :=
  ⟨rfl,failure.payload settings place requestId,_,rfl,rfl,rfl,rfl,rfl,rfl,rfl⟩

theorem answer_reports (settings : Settings) (place requestId : Text) (milliseconds : Int)
    (submission : Submission) :
    (answer framework settings place requestId milliseconds (.ok submission)).Reports
      submission.filename submission.text :=
  ⟨rfl,.ofSubmission requestId milliseconds submission,rfl,rfl,(lint_spec _).1,
    Decision.concludes_ofDiagnostics _,rfl⟩

theorem answer_requestId (settings : Settings) (place requestId : Text) (milliseconds : Int)
    (accepted : Except Refusal Submission) :
    (answer framework settings place requestId milliseconds accepted).requestId = requestId := by
  cases accepted <;> rfl

theorem Call.answer_requestId (call : Call) (settings : Settings) (requestId : Text)
    (milliseconds : Int) :
    (call.answer framework settings requestId milliseconds).requestId = requestId := by
  cases call with
  | health | rules | version => rfl
  | lintText | lintFile => exact Service.answer_requestId settings _ requestId milliseconds _

theorem occursIn_append (front part back : Text) :
    Failure.occursIn part (front ++ part ++ back) = true := by
  rw [List.append_assoc]
  induction front with
  | nil =>
    cases part with
    | nil => cases back <;> simp [Failure.occursIn]
    | cons c part => simp [Failure.occursIn]
  | cons c front ih => simp [Failure.occursIn,ih]

/-- The failure names the suffix, so it is told from other refusals of its status. -/
theorem wrongSuffix_issue (settings : Settings) (place : Text) (raised : Exception) :
    ((Failure.refused (wrongSuffix settings) raised).issue settings place).code =
      "invalid_file_type".toList := by
  unfold wrongSuffix Failure.issue
  dsimp only
  rw [occursIn_append]
  rfl

theorem fits_iff (settings : Settings) (size : Nat) :
    fits settings size = true ↔ ¬ 1024 * settings.maxUploadKb < size := by
  unfold fits Settings.maxSqlBytes
  rw [decide_eq_true_eq,Int.not_lt,Int.mul_comm]

theorem acceptText_eq (settings : Settings) (submission : Submission) :
    acceptText settings submission =
      if 1024 * settings.maxUploadKb < (Utf8.encode submission.text).length then
        .error (tooLarge settings)
      else .ok submission := by
  unfold acceptText
  simp only [fits_iff,ite_not]

theorem acceptUpload_eq (settings : Settings) (upload : Upload) :
    acceptUpload settings upload =
      if ¬ settings.suffix <:+ Text.lower (uploadName settings upload.filename) then
        .error (wrongSuffix settings)
      else if 1024 * settings.maxUploadKb < upload.contents.length then .error (tooLarge settings)
      else .ok ⟨Utf8.decode upload.contents,some (uploadName settings upload.filename)⟩ := by
  unfold acceptUpload hasSuffix
  simp only [Bool.not_eq_true',← Bool.not_eq_true,List.isSuffixOf_iff_suffix,fits_iff,not_not]

theorem lintText_kind (framework : Framework Request) (settings : Settings) (requestId : Text)
    (milliseconds : Int) (submission : Submission) :
    if 1024 * settings.maxUploadKb < (Utf8.encode submission.text).length then
      ((Call.lintText submission).answer framework settings requestId milliseconds).Refuses 413
        "payload_too_large".toList
    else
      ((Call.lintText submission).answer framework settings requestId milliseconds).Reports
        submission.filename submission.text := by
  rw [Call.answer,acceptText_eq]
  split
  · exact fail_refuses settings _ requestId (.refused (tooLarge settings) _)
  · exact answer_reports settings _ requestId milliseconds submission

theorem lintFile_kind (framework : Framework Request) (settings : Settings) (requestId : Text)
    (milliseconds : Int) (upload : Upload) :
    if ¬ settings.suffix <:+ Text.lower (uploadName settings upload.filename) then
      ((Call.lintFile upload).answer framework settings requestId milliseconds).Refuses 400
        "invalid_file_type".toList
    else if 1024 * settings.maxUploadKb < upload.contents.length then
      ((Call.lintFile upload).answer framework settings requestId milliseconds).Refuses 413
        "payload_too_large".toList
    else
      ((Call.lintFile upload).answer framework settings requestId milliseconds).Reports
        (some (uploadName settings upload.filename)) (Utf8.decode upload.contents) := by
  rw [Call.answer,acceptUpload_eq]
  split
  · have refuses := fail_refuses settings "api_lint_file".toList requestId
      (.refused (wrongSuffix settings) (framework.exception (wrongSuffix settings)))
    rw [wrongSuffix_issue] at refuses
    exact refuses
  · split
    · exact fail_refuses settings _ requestId (.refused (tooLarge settings) _)
    · exact answer_reports settings _ requestId milliseconds
        ⟨Utf8.decode upload.contents,some (uploadName settings upload.filename)⟩

theorem Framework.Renders.deliver_answer (renders : framework.Renders) (settings : Settings)
    (place requestId : Text) (milliseconds : Int) (accepted : Except Refusal Submission) :
    framework.deliver (answer framework settings place requestId milliseconds accepted) =
      .ok (answer framework settings place requestId milliseconds accepted) := by
  cases accepted with
  | error refusal =>
    simp only [deliver,answer,fail,Option.bind_some,renders.payload]
  | ok submission =>
    simp only [deliver,answer,Option.bind_some,renders.verdict]

theorem respond_text (routes : framework.Routes) (renders : framework.Renders) {request : Request}
    {submission : Submission} (sends : framework.Sends request (.lintText submission))
    (settings : Settings) (fresh : Text) (milliseconds : Int) :
    respond framework settings fresh milliseconds request =
      .ok (answer framework settings "api_lint".toList (framework.identifier fresh request)
        milliseconds (acceptText settings submission)) := by
  rw [respond_called (routes request _ sends)]
  exact renders.deliver_answer settings _ _ milliseconds _

theorem respond_file (routes : framework.Routes) (renders : framework.Renders) {request : Request}
    {upload : Upload} (sends : framework.Sends request (.lintFile upload)) (settings : Settings)
    (fresh : Text) (milliseconds : Int) :
    respond framework settings fresh milliseconds request =
      .ok (answer framework settings "api_lint_file".toList (framework.identifier fresh request)
        milliseconds (acceptUpload settings upload)) := by
  rw [respond_called (routes request _ sends)]
  exact renders.deliver_answer settings _ _ milliseconds _

def standard : Settings :=
  Settings.ofEnvironment .empty

structure ReadRequest where
  method : Text
  path : Text
  submission : Option Submission
  upload : Option Upload

def ReadRequest.ofText (text : Text) : ReadRequest :=
  ⟨Endpoint.lintText.method,Endpoint.lintText.path,some ⟨text,none⟩,none⟩

def ReadRequest.ofFile (filename contents : Text) : ReadRequest :=
  ⟨Endpoint.lintFile.method,Endpoint.lintFile.path,none,some ⟨filename,Utf8.encode contents⟩⟩

def Endpoint.ofPath? (path : Text) : Option Endpoint :=
  [health,rules,version,lintText,lintFile].find? (·.path = path)

theorem Endpoint.ofPath?_path (endpoint : Endpoint) : ofPath? endpoint.path = some endpoint := by
  cases endpoint <;> decide +kernel

namespace Framework.Reading

def httpException : ClassName where
  name := "HTTPException".toList
  nonempty := by decide
  letters := List.all_eq_true.mp rfl
  short := by decide

def validationError : ClassName where
  name := "RequestValidationError".toList
  nonempty := by decide
  letters := List.all_eq_true.mp rfl
  short := by decide

def raise (refusal : Refusal) : Exception where
  className := httpException
  message := Decimal.ofInt refusal.status ++ ": ".toList ++ refusal.detail

def refuse (refusal : Refusal) : Arrival :=
  .raised (.refused refusal (raise refusal))

def missing : Exception where
  className := validationError
  message := "1 validation error".toList

def call (request : ReadRequest) : Endpoint → Arrival
  | .health => .called .health
  | .rules => .called .rules
  | .version => .called .version
  | .lintText =>
    match request.submission with
    | some submission => .called (.lintText submission)
    | none => .raised (.invalidRequest missing)
  | .lintFile =>
    match request.upload with
    | some upload => .called (.lintFile upload)
    | none => .raised (.invalidRequest missing)

end Framework.Reading

open Framework.Reading in
/-- A framework of read requests: it finds an endpoint by its path, and tells a refusal by a bare
detail. -/
def Framework.reading : Framework ReadRequest where
  method := ReadRequest.method
  path := ReadRequest.path
  urlPath := ReadRequest.path
  header? _ _ := none
  submission? := ReadRequest.submission
  upload? := ReadRequest.upload
  arrival request :=
    match Endpoint.ofPath? request.path with
    | none => refuse ⟨404,"Not Found".toList⟩
    | some endpoint =>
      if request.method = endpoint.method then call request endpoint
      else refuse ⟨405,"Method Not Allowed".toList⟩
  exception := raise
  unhandled
    | .refused refusal _ =>
      .ok ⟨refusal.status,some (.object [("detail".toList,.text refusal.detail)])⟩
    | failure => .error failure.raised
  renderFault? _ := none

theorem Framework.routes_reading : reading.Routes := by
  intro request call sends
  obtain ⟨method,path,holds⟩ := sends
  dsimp only [reading] at method path ⊢
  rw [path,Endpoint.ofPath?_path]
  dsimp only
  rw [if_pos method]
  cases call with
  | health | rules | version => rfl
  | lintText submission =>
    have read : request.submission = some submission := holds
    simp [Call.endpoint,Reading.call,read]
  | lintFile upload =>
    have read : request.upload = some upload := holds
    simp [Call.endpoint,Reading.call,read]

theorem Framework.renders_reading : reading.Renders :=
  ⟨fun _ => rfl,fun _ => rfl⟩

theorem Framework.deliver_reading (answer : Response) : reading.deliver answer = .ok answer := by
  unfold deliver
  cases answer.body <;> rfl

end SchemaLint.Service
