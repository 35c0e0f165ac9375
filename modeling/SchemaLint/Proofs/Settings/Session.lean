import SchemaLint.Proofs.Settings.Provision
import SchemaLint.Settings.Session
import Mathlib.Data.List.Basic

/-! Sessions that any steps lead to. Settings once had are given until they are forgotten, whatever
happens to the environment and the file. A call that loads them tells what the environment says then,
and leaves it as later calls find it: the file has given what it can give.
-/
namespace SchemaLint.Settings
open Environment

structure Reads (settings : Settings) (environment : Environment) : Prop where
  appEnv : settings.appEnv = (environment.get? "APP_ENV".toList).getD "dev".toList
  logLevel : settings.logLevel = (environment.get? "LOG_LEVEL".toList).getD "INFO".toList
  maxUploadKb : settings.maxUploadKb = match environment.get? "MAX_UPLOAD_KB".toList with
    | some value => (Numeral.read? value).getD 512
    | none => 512
  suffix : settings.suffix = (environment.get? "LINT_FILE_SUFFIX".toList).getD ".lp.sql".toList
  dotted : ∃ rest, settings.suffix = '.' :: rest
  maxSqlBytes : settings.maxSqlBytes = 1024 * settings.maxUploadKb

variable {loader : Loader} {reader : Reader} {environment after : Environment} {file : Option Bytes}

theorem check_eq_ok {settings checked : Settings} (accepted : check settings = .ok checked) :
    checked = settings ∧ ∃ rest, settings.suffix = '.' :: rest := by
  unfold check at accepted
  split at accepted
  · next rest dotted =>
    cases accepted
    exact ⟨rfl,rest,dotted⟩
  · cases accepted

theorem ofEnvironment_reads {settings : Settings}
    (accepted : check (ofEnvironment environment) = .ok settings) : settings.Reads environment := by
  obtain ⟨rfl,dotted⟩ := check_eq_ok accepted
  refine ⟨rfl,rfl,?_,rfl,dotted,Int.mul_comm _ _⟩
  unfold ofEnvironment
  dsimp only [maxUploadKbName]
  cases environment.get? "MAX_UPLOAD_KB".toList <;> rfl

theorem load_of_fault {raised : Exception}
    (failed : loader.load environment file = (after,some raised)) :
    load loader environment file = (after,.error (.notLoaded raised)) := by
  simp [load,failed]

theorem load_of_complete (completed : loader.load environment file = (after,none)) :
    load loader environment file = (after,check (ofEnvironment after)) := by
  simp [load,completed]

theorem load_reads {settings : Settings} (loaded : (load loader environment file).2 = .ok settings) :
    settings.Reads (load loader environment file).1 := by
  rcases made : loader.load environment file with ⟨after,_ | raised⟩
  · rw [load_of_complete made] at loaded ⊢
    exact ofEnvironment_reads loaded
  · rw [load_of_fault made] at loaded
    cases loaded

namespace Loader.Copies

theorem load_of_error (copies : loader.Copies reader) {raised : Exception}
    (unreadable : reader environment file = .error raised) :
    loader.load environment file = (environment,some raised) := by
  rw [copies,unreadable]

theorem load_of_ok (copies : loader.Copies reader) {assignments : List (Text × Text)}
    (read : reader environment file = .ok assignments) :
    loader.load environment file = ((environment.provideAll assignments).1,
      (environment.provideAll assignments).2.map Unsettable.exception) := by
  rw [copies,read]

theorem grows (copies : loader.Copies reader) (environment : Environment) (file : Option Bytes) :
    Grows environment (loader.load environment file).1 (reader.Assigns environment file) := by
  cases read : reader environment file with
  | error raised =>
    rw [copies.load_of_error read]
    exact Grows.refl environment _
  | ok assignments =>
    rw [copies.load_of_ok read]
    exact (provideAll_grows environment assignments).weaken fun name member =>
      ⟨assignments,read,member⟩

end Loader.Copies

theorem load_fst (loader : Loader) (environment : Environment) (file : Option Bytes) :
    (load loader environment file).1 = (loader.load environment file).1 := by
  rcases made : loader.load environment file with ⟨after,_ | raised⟩
  · rw [load_of_complete made]
  · rw [load_of_fault made]

theorem Reader.value?_of_ok {assignments : List (Text × Text)}
    (read : reader environment file = .ok assignments) (name : Text) :
    reader.value? environment file name = assignments.lookup name := by
  unfold value?
  rw [read]
  rfl

/-- A load that stops says so; another one is the last to change anything, while nothing else does. -/
theorem load_cases (copies : loader.Copies reader) (steady : reader.Steady)
    (environment : Environment) (file : Option Bytes) :
    (load loader (load loader environment file).1 file = load loader environment file ∧
      ∀ name value fault,
        ¬ reader.Stops environment (load loader environment file).1 file name value fault) ∨
    ∃ assignments name value fault, reader environment file = .ok assignments ∧
      Stops assignments (load loader environment file).1 name value fault ∧
      (load loader environment file).2 = .error (.notLoaded fault.exception) := by
  have growth := copies.grows environment file
  cases read : reader environment file with
  | error raised =>
    have failed := load_of_fault (copies.load_of_error read)
    rw [failed]
    refine .inl ⟨failed,?_⟩
    rintro name value fault ⟨assignments,readable,-⟩
    rw [read] at readable
    cases readable
  | ok assignments =>
    have loaded := copies.load_of_ok read
    rcases provideAll_cases environment assignments with
      ⟨after,provided,all⟩ | ⟨after,name,value,fault,provided,stops⟩
    · rw [provided] at loaded
      rw [loaded] at growth
      rw [load_of_complete loaded]
      refine .inl ⟨?again,?unstopped⟩
      case again =>
        apply load_of_complete
        rcases steady environment after file assignments read growth with off | ⟨others,again,same⟩
        · rw [copies.load_of_ok off]
          rfl
        · rw [← same] at all
          rw [copies.load_of_ok again,provideAll_of_isSet all]
          rfl
      case unstopped =>
        rintro name value fault ⟨others,again,stops⟩
        obtain rfl : assignments = others := Except.ok.inj (read.symm.trans again)
        have member := List.mem_map_of_mem (f := Prod.fst) (List.mem_of_find?_eq_some stops.first)
        exact get?_eq_none_iff.mp stops.absent (all name member)
    · rw [provided] at loaded
      rw [load_of_fault loaded]
      exact .inr ⟨assignments,name,value,fault,rfl,stops,rfl⟩

/-- When a file that a variable stopped is loaded again, that variable is set if it is given a value
that can be set by then. Otherwise nothing is. -/
theorem load_of_stops (copies : loader.Copies reader) (steady : reader.Steady)
    (growth : Grows environment after (reader.Assigns environment file)) {name value : Text}
    {fault : Unsettable} (stops : reader.Stops environment after file name value fault) :
    match reader.value? after file name with
    | none => (load loader after file).1 = after
    | some other =>
      match fault? name other with
      | none => (load loader after file).1.get? name = some other
      | some stop => load loader after file = (after,.error (.notLoaded stop.exception)) := by
  obtain ⟨assignments,read,stops⟩ := stops
  rcases steady environment after file assignments read growth with off | ⟨others,again,same⟩
  · rw [Reader.value?_of_ok off,load_fst,copies.load_of_ok off]
    rfl
  · obtain ⟨other,given,outcome⟩ := stops.provideAll_again same
    have loaded := copies.load_of_ok again
    rw [Reader.value?_of_ok again,given]
    cases settable : fault? name other with
    | none =>
      simp only [settable] at outcome ⊢
      rw [load_fst,loaded]
      exact outcome
    | some stop =>
      simp only [settable] at outcome ⊢
      rw [outcome] at loaded
      exact load_of_fault loaded

namespace Session
variable {session next : Session}

theorem eq_ok_of_toOption {answer : Except Error Settings} {settings : Settings}
    (told : answer.toOption = some settings) : answer = .ok settings := by
  cases answer with
  | error error => cases told
  | ok other => exact congrArg Except.ok (Option.some.inj told)

theorem get_of_held {settings : Settings} (held : session.held = some settings) :
    session.get loader = (session,.ok settings) := by
  simp [get,held]

theorem get_of_unheld (unheld : session.held = none) :
    session.get loader = (
      { environment := (load loader session.environment session.file).1
        file := session.file
        held := (load loader session.environment session.file).2.toOption },
      (load loader session.environment session.file).2) := by
  unfold get
  rw [unheld]
  dsimp only
  split
  · next loaded => simp [loaded,Except.toOption]
  · next loaded => simp [loaded,Except.toOption]

theorem run_cons (loader : Loader) (session : Session) (step : Step) (steps : List Step) :
    session.run loader (step :: steps) = (((session.step loader step).1.run loader steps).1,
      (session.step loader step).2.toList ++ ((session.step loader step).1.run loader steps).2) := rfl

theorem step_get (loader : Loader) (session : Session) : session.step loader .get =
    ((session.get loader).1,some (session.get loader).2) := rfl

theorem held_get {settings : Settings} (answered : (session.get loader).2 = .ok settings) :
    (session.get loader).1.held = some settings := by
  cases held : session.held with
  | some other =>
    rw [get_of_held held] at answered ⊢
    cases answered
    exact held
  | none =>
    rw [get_of_unheld held] at answered ⊢
    dsimp only at answered ⊢
    rw [answered]
    rfl

theorem held_step (loader : Loader) {settings : Settings} (held : session.held = some settings)
    {step : Step} (keeps : step ≠ .forget) : (session.step loader step).1.held = some settings := by
  cases step with
  | forget => exact absurd rfl keeps
  | get => rw [step_get,get_of_held held,held]
  | setVariable | unsetVariable | writeFile | removeFile => exact held

theorem answers_of_held (loader : Loader) {settings : Settings}
    (held : session.held = some settings) {steps : List Step} (keeps : Step.forget ∉ steps) :
    ∀ answer ∈ (session.run loader steps).2, answer = .ok settings := by
  induction steps generalizing session with
  | nil => simp [run]
  | cons step steps ih =>
    rw [List.mem_cons,not_or] at keeps
    have later := ih (held_step loader held (Ne.symm keeps.1)) keeps.2
    intro answer member
    rw [run_cons,List.mem_append] at member
    rcases member with here | there
    · cases step with
      | get =>
        rw [step_get,get_of_held held] at here
        simpa using here
      | setVariable | unsetVariable | writeFile | removeFile | forget => cases here
    · exact later answer there

theorem answers_agree (session : Session) {steps : List Step} (keeps : Step.forget ∉ steps)
    {settings other : Settings} (answered : .ok settings ∈ (session.run loader steps).2)
    (again : .ok other ∈ (session.run loader steps).2) : settings = other := by
  induction steps generalizing session with
  | nil => cases answered
  | cons step steps ih =>
    rw [List.mem_cons,not_or] at keeps
    rw [run_cons] at answered again
    cases step with
    | forget => exact absurd rfl keeps.1
    | setVariable | unsetVariable | writeFile | removeFile => exact ih _ keeps.2 answered again
    | get =>
      rw [step_get] at answered again
      cases first : (session.get loader).2 with
      | error error =>
        apply ih (session.get loader).1 keeps.2
        · simpa [first] using answered
        · simpa [first] using again
      | ok given =>
        have later := answers_of_held loader (held_get first) keeps.2
        have all : ∀ answer ∈ [(session.get loader).2] ++ ((session.get loader).1.run loader steps).2,
            answer = .ok given := by
          intro answer member
          rcases List.mem_append.mp member with here | there
          · rw [List.mem_singleton.mp here,first]
          · exact later answer there
        have one := all _ answered
        have two := all _ again
        rw [← two] at one
        exact Except.ok.inj one

/-- Whether a session rests: the file has nothing to add to the environment, and if settings are held
they are what a load would answer. -/
structure Rests (loader : Loader) (session : Session) (answer : Except Error Settings) : Prop where
  load_eq : load loader session.environment session.file = (session.environment,answer)
  held : ∀ settings, session.held = some settings → answer = .ok settings

theorem Rests.step {answer : Except Error Settings} (rests : session.Rests loader answer) {step : Step}
    (untouched : step = .forget ∨ step = .get) :
    (session.step loader step).1.Rests loader answer ∧
      (session.step loader step).1.environment = session.environment ∧
      ∀ told, (session.step loader step).2 = some told → told = answer := by
  rcases untouched with rfl | rfl
  · refine ⟨⟨rests.load_eq,?_⟩,rfl,?_⟩
    · intro settings held
      cases held
    · intro told answered
      cases answered
  · rw [step_get]
    cases held : session.held with
    | some settings =>
      rw [get_of_held held]
      refine ⟨rests,rfl,?_⟩
      intro told answered
      rw [rests.held settings held]
      exact (Option.some.inj answered).symm
    | none =>
      rw [get_of_unheld held,rests.load_eq]
      refine ⟨⟨rests.load_eq,?_⟩,rfl,?_⟩
      · intro settings kept
        exact eq_ok_of_toOption kept
      · intro told answered
        exact (Option.some.inj answered).symm

theorem Rests.run {answer : Except Error Settings} (rests : session.Rests loader answer)
    {steps : List Step} (untouched : ∀ step ∈ steps, step = .forget ∨ step = .get) :
    (session.run loader steps).1.environment = session.environment ∧
      ∀ told ∈ (session.run loader steps).2, told = answer := by
  induction steps generalizing session with
  | nil => simp [Session.run]
  | cons step steps ih =>
    obtain ⟨resting,kept,alike⟩ := rests.step (untouched step List.mem_cons_self)
    obtain ⟨later,answers⟩ := ih resting fun other member =>
      untouched other (List.mem_cons_of_mem _ member)
    rw [run_cons]
    refine ⟨later.trans kept,?_⟩
    intro told member
    rcases List.mem_append.mp member with here | there
    · exact alike told (Option.mem_toList.mp here)
    · exact answers told there

theorem run_forget_get (loader : Loader) (session : Session) :
    (session.run loader [.forget,.get]).1.environment =
      (load loader session.environment session.file).1 := by
  have forgotten : ({ session with held := none } : Session).held = none := rfl
  rw [run_cons,run_cons,step_get,step,get_of_unheld forgotten]
  rfl

/-- What a load leaves behind, by what it answers: another one that nothing else comes before. -/
structure Leaves (loader : Loader) (reader : Reader) (session next : Session)
    (answer : Except Error Settings) : Prop where
  /-- A load that no variable stops is the last one to change the environment, and calls are answered
  alike from then on. -/
  settled : (∀ name value fault,
      ¬ reader.Stops session.environment next.environment session.file name value fault) →
    ∀ steps, (∀ step ∈ steps, step = .forget ∨ step = .get) →
      (next.run loader steps).1.environment = next.environment ∧
        ∀ told ∈ (next.run loader steps).2, told = answer
  /-- After one that a variable stops, the next load changes the environment just if it gives the
  variable a value that can be set. If it gives one that cannot, that is answered from then on. -/
  stopped : ∀ name value fault,
    reader.Stops session.environment next.environment session.file name value fault →
    answer = .error (.notLoaded fault.exception) ∧
    ((next.run loader [.forget,.get]).1.environment ≠ next.environment ↔
      ∃ other, reader.value? next.environment session.file name = some other ∧
        fault? name other = none) ∧
    ∀ other stop, reader.value? next.environment session.file name = some other →
      fault? name other = some stop →
      ∀ steps, (∀ step ∈ steps, step = .forget ∨ step = .get) →
        (next.run loader steps).1.environment = next.environment ∧
          ∀ told ∈ (next.run loader steps).2, told = .error (.notLoaded stop.exception)

structure Lawful (loader : Loader) (reader : Reader) (session : Session) : Prop where
  /-- A call keeps the variables that are there, also those set to nothing, and adds none but those
  that the file assigns. -/
  grows : Grows session.environment (session.get loader).1.environment
    (reader.Assigns session.environment session.file)
  given : ∀ settings, session.held = some settings → session.get loader = (session,.ok settings)
  agree : ∀ steps, Step.forget ∉ steps → ∀ settings other,
    .ok settings ∈ (session.run loader steps).2 → .ok other ∈ (session.run loader steps).2 →
      settings = other
  loaded : session.held = none → ∀ settings, (session.get loader).2 = .ok settings →
    settings.Reads (session.get loader).1.environment ∧
      (session.get loader).1.held = some settings
  refused : ∀ error, (session.get loader).2 = .error error → (session.get loader).1.held = none
  leaves : session.held = none →
    session.Leaves loader reader (session.get loader).1 (session.get loader).2

theorem grows_get (copies : loader.Copies reader) (session : Session) :
    Grows session.environment (session.get loader).1.environment
      (reader.Assigns session.environment session.file) := by
  cases held : session.held with
  | some settings =>
    rw [get_of_held held]
    exact Grows.refl session.environment _
  | none =>
    rw [get_of_unheld held]
    dsimp only
    rw [load_fst]
    exact copies.grows session.environment session.file

theorem get_of_stops (copies : loader.Copies reader) (steady : reader.Steady)
    (unheld : session.held = none) {name value : Text} {fault : Unsettable}
    (stops : reader.Stops session.environment (session.get loader).1.environment session.file
      name value fault) :
    (session.get loader).2 = .error (.notLoaded fault.exception) := by
  rw [get_of_unheld unheld] at stops ⊢
  dsimp only at stops ⊢
  rcases load_cases copies steady session.environment session.file with
    ⟨-,unstopped⟩ | ⟨assignments,other,given,refused,read,stopsAt,answer⟩
  · exact absurd stops (unstopped name value fault)
  · obtain ⟨_,readable,stops⟩ := stops
    obtain rfl := Except.ok.inj (read.symm.trans readable)
    obtain ⟨rfl,rfl⟩ := Prod.mk.inj (Option.some.inj (stopsAt.first.symm.trans stops.first))
    obtain rfl := Option.some.inj (stopsAt.refused.symm.trans stops.refused)
    exact answer

theorem file_get (loader : Loader) (session : Session) :
    (session.get loader).1.file = session.file := by
  cases held : session.held with
  | some settings => rw [get_of_held held]
  | none => rw [get_of_unheld held]

theorem held_get_of_error {error : Error} (answered : (session.get loader).2 = .error error) :
    (session.get loader).1.held = none := by
  cases held : session.held with
  | some settings =>
    rw [get_of_held held] at answered
    cases answered
  | none =>
    rw [get_of_unheld held] at answered ⊢
    dsimp only at answered ⊢
    rw [answered]
    rfl

theorem settled_get (copies : loader.Copies reader) (steady : reader.Steady)
    (unheld : session.held = none)
    (unstopped : ∀ name value fault, ¬ reader.Stops session.environment
      (session.get loader).1.environment session.file name value fault) :
    (session.get loader).1.Rests loader (session.get loader).2 := by
  rw [get_of_unheld unheld] at unstopped ⊢
  rcases load_cases copies steady session.environment session.file with
    ⟨again,-⟩ | ⟨assignments,name,value,fault,read,stops,-⟩
  · exact ⟨again,fun settings held => eq_ok_of_toOption held⟩
  · exact absurd ⟨assignments,read,stops⟩ (unstopped name value fault)

theorem leaves_get (copies : loader.Copies reader) (steady : reader.Steady)
    (unheld : session.held = none) :
    session.Leaves loader reader (session.get loader).1 (session.get loader).2 where
  settled := fun unstopped steps untouched =>
    (settled_get copies steady unheld unstopped).run untouched
  stopped := by
    intro name value fault stops
    have answer := get_of_stops copies steady unheld stops
    have again := load_of_stops copies steady (grows_get copies session) stops
    refine ⟨answer,?_,?_⟩
    · rw [run_forget_get,file_get]
      constructor
      · intro changed
        split at again
        · exact absurd again changed
        · next other given =>
          split at again
          · next settable => exact ⟨other,given,settable⟩
          · rw [again] at changed
            exact absurd rfl changed
      · rintro ⟨other,given,settable⟩ kept
        simp only [given,settable] at again
        obtain ⟨_,_,stops⟩ := stops
        rw [kept,stops.absent] at again
        cases again
    · intro other stop given refused steps untouched
      simp only [given,refused] at again
      have rests : (session.get loader).1.Rests loader (.error (.notLoaded stop.exception)) := by
        refine ⟨by rw [file_get]; exact again,?_⟩
        intro settings held
        rw [held_get_of_error answer] at held
        cases held
      exact rests.run untouched

/-- Every session that steps lead to is lawful. -/
theorem start_run_lawful (copies : loader.Copies reader) (steady : reader.Steady)
    (steps : List Step) : (start.run loader steps).1.Lawful loader reader := by
  generalize (start.run loader steps).1 = session
  refine
    { grows := grows_get copies session
      given := fun settings held => get_of_held held
      agree := fun steps keeps settings other answered again =>
        answers_agree session keeps answered again
      loaded := ?loaded
      refused := fun error answered => held_get_of_error answered
      leaves := leaves_get copies steady }
  case loaded =>
    intro unheld settings answered
    refine ⟨?_,held_get answered⟩
    rw [get_of_unheld unheld] at answered ⊢
    exact load_reads answered

/-- A file in which a line refers to the name that the lines around it assign to. -/
def referringFile : Bytes :=
  Utf8.encode "APP_ENV=\x00\nLOG_LEVEL=$\x7bAPP_ENV\x7d\nAPP_ENV=ok".toList

/-- How that file is read: a name has the last value that is assigned to it, and a reference to it the
one in the environment, or else the one in front of the reference. -/
def referring : Reader := fun environment file =>
  .ok (if file = some referringFile then
    [("APP_ENV".toList,"ok".toList),
      ("LOG_LEVEL".toList,(environment.get? "APP_ENV".toList).getD ['\x00'])]
  else [])

theorem referring_steady : referring.Steady := by
  intro before after file assignments read growth
  unfold referring at read ⊢
  obtain rfl := Except.ok.inj read
  split
  · exact .inr ⟨_,rfl,rfl⟩
  · exact .inl rfl

/-- The name that refers to the other one is not set. -/
theorem start_run_lawful_referring :
    let loader := Loader.copying referring
    let session := (start.run loader [.writeFile referringFile]).1
    loader.Copies referring ∧ referring.Steady ∧ session.Lawful loader referring ∧
      referring.Stops session.environment (session.get loader).1.environment session.file
        "LOG_LEVEL".toList ['\x00'] .zeroCharacter := by
  intro loader session
  have copies := Loader.copying_copies referring
  refine ⟨copies,referring_steady,start_run_lawful copies referring_steady _,_,rfl,?_,?_⟩
  · decide +kernel
  · decide +kernel

/-- Loaded once more, it is: the name that it refers to has been set in between, to its last value in
the file. -/
theorem run_zeroCharacter :
    let loader := Loader.copying referring
    let session := (start.run loader [.writeFile referringFile]).1
    session.held = none ∧
      (session.get loader).2 = .error (.notLoaded Unsettable.zeroCharacter.exception) ∧
      (session.get loader).1.environment.get? "LOG_LEVEL".toList = none ∧
      ((session.get loader).1.run loader [.forget,.get]).1.environment.get? "LOG_LEVEL".toList =
        some "ok".toList := by
  decide +kernel

end Session
end SchemaLint.Settings
