import SchemaLint.Proofs.Service.Answer
import SchemaLint.Proofs.Text.Lowercase

/-! Files that carry the suffix that is set. Their names are looked at in lower case and the suffix is
not, so such a file is accepted just if the suffix is in lower case, and so is a file without a name,
which is given one that ends in the suffix.
-/
namespace SchemaLint.Service

/-- Whether the name of a file ends in the suffix that is set, or the file has none. -/
def Upload.Carries (upload : Upload) (settings : Settings) : Prop :=
  settings.suffix <:+ upload.filename ∨ upload.filename = []

variable {Request : Type} {framework : Framework Request} {settings : Settings} {upload : Upload}

theorem Upload.Carries.suffix_uploadName (carries : upload.Carries settings) :
    settings.suffix <:+ uploadName settings upload.filename := by
  unfold uploadName
  split
  · exact List.suffix_append _ _
  · next named =>
    rcases carries with ends | unnamed
    · exact ends
    · exact absurd (List.isEmpty_iff.mpr unnamed) named

theorem Upload.Carries.suffix_lower_iff (carries : upload.Carries settings) :
    settings.suffix <:+ Text.lower (uploadName settings upload.filename) ↔
      Text.lower settings.suffix = settings.suffix := by
  obtain ⟨front,name⟩ := carries.suffix_uploadName
  rw [← name]
  exact Text.suffix_lower_append_iff front settings.suffix

theorem Response.Refuses.not_other {response : Response} {status other : Int} {code otherCode : Text}
    (refuses : response.Refuses status code) (differ : status ≠ other) :
    ¬ response.Refuses other otherCode :=
  fun otherwise => differ (refuses.status_eq.symm.trans otherwise.status_eq)

theorem Response.Reports.not_refuses {response : Response} {filename : Option Text} {text code : Text}
    (reports : response.Reports filename text) : ¬ response.Refuses 400 code := by
  intro refuses
  have status := reports.status_eq.symm.trans refuses.status_eq
  cases status

/-- An upload of a file that carries the suffix is refused for its name just if the suffix is not in
lower case. Else only its size matters. -/
theorem respond_suffixCarried (routes : framework.Routes) {request : Request}
    (sends : framework.Sends request (.lintFile upload)) (carries : upload.Carries settings)
    (fresh : Text) (milliseconds : Int) :
    ∃ answer, respond framework settings fresh milliseconds request = framework.deliver answer ∧
      (answer.Refuses 400 "invalid_file_type".toList ↔
        Text.lower settings.suffix ≠ settings.suffix) ∧
      (Text.lower settings.suffix = settings.suffix →
        if 1024 * settings.maxUploadKb < upload.contents.length then
          answer.Refuses 413 "payload_too_large".toList
        else
          answer.Reports (some (uploadName settings upload.filename))
            (Utf8.decode upload.contents)) := by
  refine ⟨_,respond_called (routes request _ sends) settings fresh milliseconds,?_⟩
  have kind := lintFile_kind framework settings (framework.identifier fresh request) milliseconds
    upload
  have found := carries.suffix_lower_iff
  by_cases lower : Text.lower settings.suffix = settings.suffix
  · rw [if_neg (not_not.mpr (found.mpr lower))] at kind
    refine ⟨iff_of_false ?_ (not_not.mpr lower),fun _ => kind⟩
    split at kind
    · exact kind.not_other (by decide)
    · exact kind.not_refuses
  · rw [if_pos (mt found.mp lower)] at kind
    exact ⟨iff_of_true kind lower,fun same => absurd same lower⟩

/-- A file without a name is accepted. -/
theorem respond_suffixCarried_unnamed :
    let request := ReadRequest.ofFile [] "begin".toList
    let upload : Upload := ⟨[],Utf8.encode "begin".toList⟩
    Framework.reading.Routes ∧ Framework.reading.Sends request (.lintFile upload) ∧
      upload.Carries standard ∧
      ∃ response, respond Framework.reading standard "r".toList 3 request = .ok response ∧
        ¬ response.Refuses 400 "invalid_file_type".toList ∧
        response.Reports (some "upload.lp.sql".toList) "begin".toList := by
  intro request upload
  have sends : Framework.reading.Sends request (.lintFile upload) := ⟨rfl,rfl,rfl⟩
  have carries : upload.Carries standard := .inr rfl
  have lower : Text.lower standard.suffix = standard.suffix := by decide +kernel
  have name : uploadName standard upload.filename = "upload.lp.sql".toList := by decide +kernel
  have text : Utf8.decode upload.contents = "begin".toList := by decide +kernel
  obtain ⟨answer,given,refused,kind⟩ :=
    respond_suffixCarried Framework.routes_reading sends carries "r".toList 3
  have accepted := kind lower
  rw [if_neg (by decide +kernel),name,text] at accepted
  refine ⟨Framework.routes_reading,sends,carries,answer,?_,fun refuses => refused.mp refuses lower,
    accepted⟩
  rw [given,Framework.deliver_reading]

def shouting : Environment :=
  Environment.empty.set Settings.suffixName ".SQL".toList

def capitals : Settings :=
  Settings.ofEnvironment shouting

/-- The suffix is accepted, and a file that carries it is not. -/
theorem respond_capitals :
    let request := ReadRequest.ofFile "a.SQL".toList "begin".toList
    (∀ loader : Settings.Loader, loader.load shouting none = (shouting,none) →
      Settings.load loader shouting none = (shouting,.ok capitals)) ∧
    Framework.reading.Sends request (.lintFile ⟨"a.SQL".toList,Utf8.encode "begin".toList⟩) ∧
    capitals.suffix <:+ "a.SQL".toList ∧
    ∃ response, respond Framework.reading capitals "r".toList 0 request = .ok response ∧
      response.Refuses 400 "invalid_file_type".toList := by
  intro request
  have sends : Framework.reading.Sends request
      (.lintFile ⟨"a.SQL".toList,Utf8.encode "begin".toList⟩) := ⟨rfl,rfl,rfl⟩
  have kind := lintFile_kind Framework.reading capitals "r".toList 0
    ⟨"a.SQL".toList,Utf8.encode "begin".toList⟩
  rw [if_pos (by decide +kernel)] at kind
  refine ⟨?_,sends,by decide +kernel,_,
    respond_file Framework.routes_reading Framework.renders_reading sends capitals "r".toList 0,kind⟩
  intro loader loaded
  have dotted : Settings.check capitals = .ok capitals := rfl
  unfold Settings.load
  rw [loaded]
  exact congrArg (Prod.mk shouting) dotted

end SchemaLint.Service
