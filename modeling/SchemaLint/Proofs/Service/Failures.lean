import SchemaLint.Proofs.Failure.Detail
import SchemaLint.Proofs.Service.Answer

/-! How requests fail. What an endpoint refuses, and a request that is invalid, is told by a failure
payload, with its status, its text, one issue and a decision against the text. A refusal from outside
of the endpoints is told in the way of the framework, which is by a bare detail.
-/
namespace SchemaLint.Service

/-- Whether a response is the payload of a failure, with one issue, of a code. -/
structure Response.Tells (response : Response) (failure : Failure) (code : Text) : Prop where
  status_eq : response.status = failure.status
  detail_ne_nil : failure.detail ≠ []
  told : ∃ (issue : Issue) (decision : Decision) (trace : Trace),
    response.body = some (.object
      [("error".toList,.text "Failed to lint SQL.".toList),
        ("status".toList,.integer response.status),("detail".toList,.text failure.detail),
        ("issues".toList,.array [issue.toJson]),("decision".toList,decision.toJson),
        ("trace".toList,trace.toJson)]) ∧
    issue.code = code ∧ decision.passed = false ∧ decision.codes = [code] ∧
    trace.requestId = response.requestId

/-- The refusals of the endpoints, with the code of the issue that is told of each. -/
def refusals (settings : Settings) : List (Refusal × String) :=
  [(tooLarge settings,"payload_too_large"),(wrongSuffix settings,"invalid_file_type")]

/-- Whether a framework tells a refusal that has no handler by its status and a bare detail. -/
def Framework.TellsBarely {Request : Type} (framework : Framework Request) : Prop :=
  ∀ refusal raised, framework.unhandled (.refused refusal raised) =
    .ok ⟨refusal.status,some (.object [("detail".toList,.text refusal.detail)])⟩

variable {Request : Type} {framework : Framework Request} {settings : Settings}

theorem fail_tells (settings : Settings) (place requestId : Text) (failure : Failure) :
    (fail settings place requestId failure).Tells failure (failure.issue settings place).code where
  status_eq := rfl
  detail_ne_nil := Failure.tell_ne_nil failure failure.raised.message
  told := ⟨failure.issue settings place,_,_,rfl,rfl,rfl,rfl,rfl⟩

theorem not_tells_of_bare {response : Response} {detail : Text}
    (bare : response.body = some (.object [("detail".toList,.text detail)])) (failure : Failure)
    (code : Text) : ¬ response.Tells failure code := by
  intro tells
  obtain ⟨issue,decision,trace,body,-⟩ := tells.told
  rw [bare] at body
  simp at body

theorem issue_of_mem_refusals {refusal : Refusal} {code : String}
    (member : (refusal,code) ∈ refusals settings) (place : Text) (raised : Exception) :
    ((Failure.refused refusal raised).issue settings place).code = code.toList := by
  rcases List.mem_cons.mp member with size | suffix
  · obtain ⟨rfl,rfl⟩ := Prod.mk.inj size
    rfl
  · obtain ⟨rfl,rfl⟩ := Prod.mk.inj (List.mem_singleton.mp suffix)
    exact wrongSuffix_issue settings place raised

theorem answer_tells {accepted : Except Refusal Submission}
    (listed : ∀ refusal, accepted = .error refusal →
      ∃ code, (refusal,code) ∈ refusals settings) (place requestId : Text) (milliseconds : Int)
    (failed : 400 ≤ (answer framework settings place requestId milliseconds accepted).status) :
    ∃ refusal code, (refusal,code) ∈ refusals settings ∧
      (answer framework settings place requestId milliseconds accepted).Tells
        (.refused refusal (framework.exception refusal)) code.toList := by
  cases accepted with
  | ok submission =>
    dsimp only [answer] at failed
    omega
  | error refusal =>
    obtain ⟨code,member⟩ := listed refusal rfl
    refine ⟨refusal,code,member,?_⟩
    rw [← issue_of_mem_refusals member place (framework.exception refusal)]
    exact fail_tells settings place requestId _

theorem Call.answer_tells (call : Call) (requestId : Text) (milliseconds : Int)
    (failed : 400 ≤ (call.answer framework settings requestId milliseconds).status) :
    ∃ refusal code, (refusal,code) ∈ refusals settings ∧
      (call.answer framework settings requestId milliseconds).Tells
        (.refused refusal (framework.exception refusal)) code.toList := by
  cases call with
  | health | rules | version =>
    dsimp only [answer,succeed] at failed
    omega
  | lintText submission =>
    refine Service.answer_tells ?_ _ requestId milliseconds failed
    intro refusal refused
    rw [acceptText_eq] at refused
    split at refused
    · obtain rfl := Except.error.inj refused
      exact ⟨_,.head _⟩
    · cases refused
  | lintFile upload =>
    refine Service.answer_tells ?_ _ requestId milliseconds failed
    intro refusal refused
    rw [acceptUpload_eq] at refused
    split at refused
    · obtain rfl := Except.error.inj refused
      exact ⟨_,.tail _ (.head _)⟩
    · split at refused
      · obtain rfl := Except.error.inj refused
        exact ⟨_,.head _⟩
      · cases refused

theorem issue_of_refused (place : Text) (raised : Exception) {refusal : Refusal}
    (size : refusal.status ≠ 413)
    (suffix : refusal.status = 400 → Failure.occursIn settings.suffix refusal.detail = false) :
    ((Failure.refused refusal raised).issue settings place).code =
      "request_validation_error".toList := by
  unfold Failure.issue
  dsimp only
  rw [if_neg size]
  by_cases named : refusal.status = 400
  · simp [suffix named,Failure.validationIssue]
  · simp [named,Failure.validationIssue]

/-- Every failure of an endpoint, and every invalid request, is told by a failure payload of its
status, which is missing only where the framework cannot render it. A refusal from outside of the
endpoints is told by a bare detail, though the service would tell it by a payload, too. -/
theorem respond_failure (framework : Framework Request) (settings : Settings) (fresh : Text)
    (milliseconds : Int) (request : Request) :
    (∀ call, framework.arrival request = .called call →
      ∃ answer, respond framework settings fresh milliseconds request =
          framework.deliver answer ∧
        (400 ≤ answer.status → ∃ refusal code, (refusal,code) ∈ refusals settings ∧
          answer.Tells (.refused refusal (framework.exception refusal)) code.toList)) ∧
    (∀ raised, framework.arrival request = .raised (.invalidRequest raised) →
      ∃ answer, respond framework settings fresh milliseconds request =
          framework.deliver answer ∧
        answer.status = 422 ∧
        answer.Tells (.invalidRequest raised) "request_validation_error".toList) ∧
    (∀ refusal raised, framework.arrival request = .raised (.refused refusal raised) →
      framework.TellsBarely →
        ∃ response, respond framework settings fresh milliseconds request = .ok response ∧
          response.status = refusal.status ∧
          ∀ failure code, ¬ response.Tells failure code) ∧
    ∀ place requestId refusal raised, refusal.status ≠ 413 →
      (refusal.status = 400 → Failure.occursIn settings.suffix refusal.detail = false) →
        (fail settings place requestId (.refused refusal raised)).status = refusal.status ∧
        (fail settings place requestId (.refused refusal raised)).Tells (.refused refusal raised)
          "request_validation_error".toList := by
  refine ⟨?called,?invalid,?turned,?mapped⟩
  case called =>
    intro call arrives
    exact ⟨_,respond_called arrives settings fresh milliseconds,
      call.answer_tells _ milliseconds⟩
  case invalid =>
    intro raised arrives
    exact ⟨_,respond_invalid arrives settings fresh milliseconds,rfl,
      fail_tells settings _ _ (.invalidRequest raised)⟩
  case turned =>
    intro refusal raised arrives barely
    refine ⟨Reply.response (framework.identifier fresh request)
      ⟨refusal.status,some (.object [("detail".toList,.text refusal.detail)])⟩,?_,rfl,
      not_tells_of_bare rfl⟩
    rw [respond_refused arrives,barely]
    rfl
  case mapped =>
    intro place requestId refusal raised size suffix
    refine ⟨rfl,?_⟩
    rw [← issue_of_refused place raised size suffix]
    exact fail_tells settings place requestId _

def ReadRequest.withoutText : ReadRequest :=
  ⟨Endpoint.lintText.method,Endpoint.lintText.path,none,none⟩

theorem respond_failure_withoutText :
    ∃ response, respond Framework.reading standard "r".toList 0 .withoutText = .ok response ∧
      response.status = 422 ∧
      response.Tells (.invalidRequest Framework.Reading.missing)
        "request_validation_error".toList := by
  have arrives : Framework.reading.arrival .withoutText =
      .raised (.invalidRequest Framework.Reading.missing) := rfl
  obtain ⟨answer,given,status,tells⟩ :=
    (respond_failure Framework.reading standard "r".toList 0 .withoutText).2.1 _ arrives
  refine ⟨answer,?_,status,tells⟩
  rw [given,Framework.deliver_reading]

def ReadRequest.elsewhere : ReadRequest :=
  ⟨"GET".toList,"/nope".toList,none,none⟩

/-- Where no endpoint is, the failure has no payload. -/
theorem respond_elsewhere :
    ∃ response, respond Framework.reading standard "r".toList 0 .elsewhere = .ok response ∧
      400 ≤ response.status ∧ ∀ failure code, ¬ response.Tells failure code := by
  refine ⟨Reply.response "r".toList
    ⟨404,some (.object [("detail".toList,.text "Not Found".toList)])⟩,rfl,by decide,?_⟩
  exact not_tells_of_bare rfl

end SchemaLint.Service
