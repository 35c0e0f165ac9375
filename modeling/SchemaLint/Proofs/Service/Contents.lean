import SchemaLint.Proofs.Lint.Continuation
import SchemaLint.Proofs.Lint.LineEnds
import SchemaLint.Proofs.Service.Answer
import SchemaLint.Proofs.Text.Utf8

/-! The same contents in different hands. A file is linted alike whether it is read from a file tree or
uploaded, and a text alike whether it is sent or uploaded, with any bytes on the lines behind it.
-/
namespace SchemaLint.Service

def Response.told? (response : Response) (name : Text) : Option Json :=
  match response.body with
  | some (.object members) => Json.member? members name
  | _ => none

/-- Whether two responses come to the same verdict on a text, or both refuse it for its size. -/
structure Response.SameVerdict (response other : Response) : Prop where
  status_eq : response.status = other.status
  status_mem : response.status = 200 ∨ response.status = 413
  diagnostics_eq : response.told? "diagnostics".toList = other.told? "diagnostics".toList
  decision_eq : ∃ decision : Decision, response.told? "decision".toList = some decision.toJson ∧
    other.told? "decision".toList = some decision.toJson

variable {Request : Type} {framework : Framework Request}

theorem Response.Reports.diagnostics_eq {response : Response} {filename : Option Text} {text : Text}
    (reports : response.Reports filename text) :
    ∃ verdict : Verdict, response.body = some verdict.toJson ∧ verdict.diagnostics = lint text := by
  obtain ⟨verdict,body,-,found,-⟩ := reports.told
  rw [(lint_spec text).1] at found
  exact ⟨verdict,body,(Except.ok.inj found).symm⟩

theorem deliver_eq_ok {answer response : Response}
    (given : framework.deliver answer = .ok response) : response = answer := by
  unfold Framework.deliver at given
  split at given
  · cases given
  · exact (Except.ok.inj given).symm

/-- A file in which every carriage return is part of a line end is linted alike by both ways that read
files: with line ends of any kind read as line feeds, and with the text taken as it is. -/
theorem lintFile_uploaded {contents : Bytes} (fed : Text.ReturnsFed (Utf8.decode contents)) :
    lintWith Rule.all (Text.universalNewlines (Utf8.decode contents)) = .ok (lintFile contents) ∧
      lintWith Rule.all (Utf8.decode contents) = .ok (lintFile contents) ∧
      ∀ (Request : Type) (framework : Framework Request) settings fresh milliseconds request filename
        response,
        framework.arrival request = .called (.lintFile ⟨filename,contents⟩) →
        respond framework settings fresh milliseconds request = .ok response →
        response.status = 200 →
        ∃ verdict : Verdict, response.body = some verdict.toJson ∧
          verdict.diagnostics = lintFile contents := by
  have plain := (lint_spec (Utf8.decode contents)).1
  refine ⟨(lint_spec _).1,by rw [lintFile_eq fed,plain],?_⟩
  intro Request framework settings fresh milliseconds request filename response arrives given status
  rw [respond_called arrives] at given
  have kind := lintFile_kind framework settings (framework.identifier fresh request) milliseconds
    ⟨filename,contents⟩
  rw [← deliver_eq_ok given] at kind
  split at kind
  · exact absurd (kind.status_eq.symm.trans status) (by decide)
  · split at kind
    · exact absurd (kind.status_eq.symm.trans status) (by decide)
    · rw [lintFile_eq fed]
      exact kind.diagnostics_eq

theorem lintFile_uploaded_comment :
    Text.ReturnsFed (Utf8.decode (Utf8.encode "-- a\r\nbegin --\r\n".toList)) ∧
      lintWith Rule.all (Utf8.decode (Utf8.encode "-- a\r\nbegin --\r\n".toList)) =
        .ok (lintFile (Utf8.encode "-- a\r\nbegin --\r\n".toList)) := by
  have fed : Text.ReturnsFed (Utf8.decode (Utf8.encode "-- a\r\nbegin --\r\n".toList)) := by
    decide +kernel
  exact ⟨fed,(lintFile_uploaded fed).2.1⟩

theorem answer_sameVerdict (settings : Settings) (text : Text) (filename other : Option Text)
    (place elsewhere requestId otherId : Text) (milliseconds later : Int) :
    (answer framework settings place requestId milliseconds (.ok ⟨text,filename⟩)).SameVerdict
      (answer framework settings elsewhere otherId later (.ok ⟨text,other⟩)) where
  status_eq := rfl
  status_mem := .inl rfl
  diagnostics_eq := rfl
  decision_eq := ⟨Decision.ofDiagnostics (lint text),rfl,rfl⟩

theorem fail_sameVerdict (settings : Settings) (place elsewhere requestId otherId : Text)
    (raised : Exception) :
    (fail settings place requestId (.refused (tooLarge settings) raised)).SameVerdict
      (fail settings elsewhere otherId (.refused (tooLarge settings) raised)) where
  status_eq := rfl
  status_mem := .inr rfl
  diagnostics_eq := rfl
  decision_eq :=
    ⟨((Failure.refused (tooLarge settings) raised).payload settings place requestId).decision,rfl,rfl⟩

/-- Encoding a text and decoding it again gives the text, also between line feeds with bytes of any
kind beyond them. So it is linted alike whether it is sent or uploaded, and all that is found in it
is found in front of such bytes too. -/
theorem respond_encoded (a b : Text) (x : Bytes) :
    Utf8.decode (Utf8.encode a ++ [0x0A] ++ x ++ [0x0A] ++ Utf8.encode b) =
        a ++ ['\n'] ++ Utf8.decode x ++ ['\n'] ++ b ∧
      Utf8.decode (Utf8.encode a) = a ∧
      ∀ (Request : Type) (framework : Framework Request), framework.Routes → framework.Renders →
        (∀ settings fresh other milliseconds later submitted uploaded filename name,
          framework.Sends submitted (.lintText ⟨a,filename⟩) →
          framework.Sends uploaded (.lintFile ⟨name,Utf8.encode a⟩) →
          hasSuffix settings (uploadName settings name) = true →
          ∃ response answered,
            respond framework settings fresh milliseconds submitted = .ok response ∧
            respond framework settings other later uploaded = .ok answered ∧
            response.SameVerdict answered) ∧
        ∀ settings fresh milliseconds uploaded name,
          framework.Sends uploaded (.lintFile ⟨name,Utf8.encode a ++ [0x0A] ++ x⟩) →
          hasSuffix settings (uploadName settings name) = true →
          ∃ response, respond framework settings fresh milliseconds uploaded = .ok response ∧
            if 1024 * settings.maxUploadKb < (Utf8.encode a ++ [0x0A] ++ x).length then
              response.Refuses 413 "payload_too_large".toList
            else
              ∃ verdict : Verdict, response.status = 200 ∧ response.body = some verdict.toJson ∧
                ∃ findings, lintWith Rule.all a = .ok findings ∧
                  findings ⊆ verdict.diagnostics := by
  have alone : Utf8.decode (Utf8.encode a) = a := Utf8.decode_encode a
  have behind (back : Bytes) : Utf8.decode (Utf8.encode a ++ 0x0A :: back) =
      a ++ '\n' :: Utf8.decode back := by
    rw [Utf8.decode_append_feed,alone]
  refine ⟨?_,alone,fun Request framework routes renders => ⟨?_,?_⟩⟩
  · simp only [List.append_assoc,List.cons_append,List.nil_append]
    rw [behind,Utf8.decode_append_feed,Utf8.decode_encode]
  · intro settings fresh other milliseconds later submitted uploaded filename name sends uploads
      suffixed
    refine ⟨_,_,respond_text routes renders sends settings fresh milliseconds,
      respond_file routes renders uploads settings other later,?_⟩
    rw [acceptText_eq,acceptUpload_eq,
      if_neg (not_not_intro (List.isSuffixOf_iff_suffix.mp suffixed)),alone]
    split
    · exact fail_sameVerdict settings _ _ _ _ _
    · exact answer_sameVerdict settings a _ _ _ _ _ _ _ _
  · intro settings fresh milliseconds uploaded name uploads suffixed
    refine ⟨_,respond_file routes renders uploads settings fresh milliseconds,?_⟩
    rw [acceptUpload_eq,if_neg (not_not_intro (List.isSuffixOf_iff_suffix.mp suffixed))]
    split
    · exact fail_refuses settings _ _ (.refused (tooLarge settings) _)
    · have kept := lint_subset_feed a (Utf8.decode x)
      rw [← behind,← List.singleton_append,← List.append_assoc] at kept
      exact ⟨_,rfl,rfl,lint a,(lint_spec a).1,kept⟩

theorem respond_encoded_begin :
    let submitted := ReadRequest.ofText "begin é".toList
    let uploaded := ReadRequest.ofFile [] "begin é".toList
    Framework.reading.Routes ∧ Framework.reading.Renders ∧
      Framework.reading.Sends submitted (.lintText ⟨"begin é".toList,none⟩) ∧
      Framework.reading.Sends uploaded (.lintFile ⟨[],Utf8.encode "begin é".toList⟩) ∧
      ∃ response answered,
        respond Framework.reading standard "r".toList 2 submitted = .ok response ∧
        respond Framework.reading standard "s".toList 3 uploaded = .ok answered ∧
        response.SameVerdict answered := by
  intro submitted uploaded
  have sends : Framework.reading.Sends submitted (.lintText ⟨"begin é".toList,none⟩) :=
    ⟨rfl,rfl,rfl⟩
  have uploads : Framework.reading.Sends uploaded
      (.lintFile ⟨[],Utf8.encode "begin é".toList⟩) := ⟨rfl,rfl,rfl⟩
  exact ⟨Framework.routes_reading,Framework.renders_reading,sends,uploads,
    ((respond_encoded "begin é".toList [] []).2.2 _ _ Framework.routes_reading
      Framework.renders_reading).1 standard _ _ 2 3 _ _ none [] sends uploads (by decide +kernel)⟩

end SchemaLint.Service
