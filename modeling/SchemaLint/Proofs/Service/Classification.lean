import SchemaLint.Proofs.Service.Answer

/-! What becomes of a text that is sent or a file that is uploaded: it is refused for its size, a file
before that for its name, or else its findings are reported.
-/
namespace SchemaLint.Service

/-- Every text and every file is classified, whatever the settings and the framework. A file is refused
on account of its name, whatever its size; then the size in bytes counts, and what is not refused is
linted. The answer is missing only where the framework cannot render it. -/
theorem respond_classifies {Request : Type} {framework : Framework Request}
    (routes : framework.Routes) (settings : Settings) (fresh : Text) (milliseconds : Int)
    (request : Request) :
    (∀ submission, framework.Sends request (.lintText submission) →
      ∃ answer, respond framework settings fresh milliseconds request =
          framework.deliver answer ∧
        answer.requestId = framework.identifier fresh request ∧
        if 1024 * settings.maxUploadKb < (Utf8.encode submission.text).length then
          answer.Refuses 413 "payload_too_large".toList
        else answer.Reports submission.filename submission.text) ∧
    (∀ upload, framework.Sends request (.lintFile upload) →
      ∃ answer, respond framework settings fresh milliseconds request =
          framework.deliver answer ∧
        answer.requestId = framework.identifier fresh request ∧
        if ¬ settings.suffix <:+ Text.lower (uploadName settings upload.filename) then
          answer.Refuses 400 "invalid_file_type".toList
        else if 1024 * settings.maxUploadKb < upload.contents.length then
          answer.Refuses 413 "payload_too_large".toList
        else
          answer.Reports (some (uploadName settings upload.filename))
            (Utf8.decode upload.contents)) := by
  constructor
  · intro submission sends
    exact ⟨_,respond_called (routes request _ sends) settings fresh milliseconds,
      Call.answer_requestId _ settings _ milliseconds,
      lintText_kind framework settings _ milliseconds submission⟩
  · intro upload sends
    exact ⟨_,respond_called (routes request _ sends) settings fresh milliseconds,
      Call.answer_requestId _ settings _ milliseconds,
      lintFile_kind framework settings _ milliseconds upload⟩

/-- A file whose name is in capital letters has the suffix. -/
theorem respond_classifies_capitals :
    let request := ReadRequest.ofFile "A.LP.SQL".toList "begin".toList
    Framework.reading.Routes ∧
      Framework.reading.Sends request
        (.lintFile ⟨"A.LP.SQL".toList,Utf8.encode "begin".toList⟩) ∧
      ∃ response, respond Framework.reading standard "r".toList 3 request = .ok response ∧
        response.Reports (some "A.LP.SQL".toList) "begin".toList := by
  intro request
  have sends : Framework.reading.Sends request
      (.lintFile ⟨"A.LP.SQL".toList,Utf8.encode "begin".toList⟩) := ⟨rfl,rfl,rfl⟩
  have text : Utf8.decode (Utf8.encode "begin".toList) = "begin".toList := by decide +kernel
  obtain ⟨answer,given,-,kind⟩ :=
    (respond_classifies Framework.routes_reading standard "r".toList 3 request).2 _ sends
  rw [if_neg (by decide +kernel),if_neg (by decide +kernel),text] at kind
  refine ⟨Framework.routes_reading,sends,answer,?_,kind⟩
  rw [given,Framework.deliver_reading]

end SchemaLint.Service
