import SchemaLint.Proofs.Settings.Session

/-! What a refused suffix leaves behind. It was in the file and is in the environment from then on, so
that no other file helps while the variable stays; without it the next file has its say.
-/
namespace SchemaLint.Settings
open Environment

variable {loader : Loader} {reader : Reader} {environment : Environment} {file : Option Bytes}

theorem load_of_unstopped (unstopped : (loader.load environment file).2 = none) :
    load loader environment file = ((loader.load environment file).1,
      check (ofEnvironment (loader.load environment file).1)) :=
  load_of_complete (Prod.ext rfl unstopped)

theorem check_eq_error_iff {settings : Settings} {error : Error} :
    check settings = .error error ↔
      error = .suffixWithoutDot ∧ settings.suffix.head? ≠ some '.' := by
  unfold check
  split
  · next rest dotted => simp [dotted]
  · next undotted =>
    have first : settings.suffix.head? ≠ some '.' := by
      intro dot
      obtain ⟨rest,dotted⟩ := List.head?_eq_some_iff.mp dot
      exact undotted rest dotted
    simp [first,eq_comm]

/-- Of all refusals only the one of the suffix comes after the file has been loaded. -/
theorem unstopped_of_suffixWithoutDot
    (refused : (load loader environment file).2 = .error .suffixWithoutDot) :
    (loader.load environment file).2 = none := by
  rcases made : loader.load environment file with ⟨after,_ | raised⟩
  · rfl
  · rw [load_of_fault made] at refused
    cases refused

theorem Loader.Copies.get?_load (copies : loader.Copies reader) {name value : Text}
    (given : reader.value? environment file name = some value)
    (absent : environment.get? name = none)
    (unstopped : (loader.load environment file).2 = none) :
    (loader.load environment file).1.get? name = some value := by
  cases read : reader environment file with
  | error raised =>
    unfold Reader.value? at given
    rw [read] at given
    cases given
  | ok assignments =>
    rw [Reader.value?_of_ok read] at given
    rw [copies.load_of_ok read,Option.map_eq_none_iff] at unstopped
    rw [copies.load_of_ok read]
    exact get?_provideAll given absent unstopped

namespace Session
variable {session : Session} {value : Text}

def Step.Spares (name : Text) : Step → Prop
  | .setVariable other _ => other ≠ name
  | .unsetVariable other => other ≠ name
  | .writeFile _ | .removeFile | .forget | .get => True

/-- Whether a session has no settings, and an environment whose suffix has no dot in front. -/
structure Dotless (session : Session) (value : Text) : Prop where
  unheld : session.held = none
  suffix : session.environment.get? suffixName = some value
  dotless : value.head? ≠ some '.'

theorem Dotless.suffix_load (dotless : session.Dotless value) (copies : loader.Copies reader) :
    (load loader session.environment session.file).1.get? suffixName = some value := by
  rw [load_fst]
  exact (copies.grows session.environment session.file).keeps _ _ dotless.suffix

theorem Dotless.get_eq_error (dotless : session.Dotless value) (copies : loader.Copies reader) :
    ∃ error, (session.get loader).2 = .error error ∧
      ((loader.load session.environment session.file).2 = none → error = .suffixWithoutDot) := by
  rw [get_of_unheld dotless.unheld]
  dsimp only
  cases loaded : (load loader session.environment session.file).2 with
  | ok settings =>
    obtain ⟨rest,dotted⟩ := (load_reads loaded).dotted
    have given := (load_reads loaded).suffix
    have kept : (load loader session.environment session.file).1.get? "LINT_FILE_SUFFIX".toList =
        some value := dotless.suffix_load copies
    rw [kept,dotted] at given
    exact absurd (congrArg List.head? given).symm dotless.dotless
  | error error =>
    refine ⟨error,rfl,?_⟩
    intro unstopped
    rw [load_of_unstopped unstopped] at loaded
    exact (check_eq_error_iff.mp loaded).1

theorem Dotless.step (dotless : session.Dotless value) (copies : loader.Copies reader) {step : Step}
    (spares : step.Spares suffixName) : (session.step loader step).1.Dotless value := by
  cases step with
  | setVariable name other =>
    refine ⟨dotless.unheld,?_,dotless.dotless⟩
    rw [Session.step,get?_set,if_neg (Ne.symm spares)]
    exact dotless.suffix
  | unsetVariable name =>
    refine ⟨dotless.unheld,?_,dotless.dotless⟩
    rw [Session.step,get?_unset,if_neg (Ne.symm spares)]
    exact dotless.suffix
  | writeFile | removeFile => exact ⟨dotless.unheld,dotless.suffix,dotless.dotless⟩
  | forget => exact ⟨rfl,dotless.suffix,dotless.dotless⟩
  | get =>
    obtain ⟨error,refused,-⟩ := dotless.get_eq_error copies
    rw [step_get]
    refine ⟨held_get_of_error refused,?_,dotless.dotless⟩
    rw [get_of_unheld dotless.unheld]
    exact dotless.suffix_load copies

theorem Dotless.run (dotless : session.Dotless value) (copies : loader.Copies reader)
    {steps : List Step} (spare : ∀ step ∈ steps, step.Spares suffixName) :
    (session.run loader steps).1.Dotless value := by
  induction steps generalizing session with
  | nil => exact dotless
  | cons step steps ih =>
    rw [run_cons]
    apply ih (dotless.step copies (spare step List.mem_cons_self))
    intro other member
    exact spare other (List.mem_cons_of_mem _ member)

/-- A refused suffix that was not in the environment is in it afterwards, from the file. -/
theorem dotless_get (copies : loader.Copies reader)
    (unset : session.environment.get? suffixName = none)
    (refused : (session.get loader).2 = .error .suffixWithoutDot) :
    reader.Assigns session.environment session.file suffixName ∧
      ∃ value, (session.get loader).1.Dotless value := by
  have grows := grows_get copies session
  have unheldAfter := held_get_of_error refused
  have unheld : session.held = none := by
    cases held : session.held with
    | none => rfl
    | some settings =>
      rw [get_of_held held] at refused
      cases refused
  rw [get_of_unheld unheld] at refused grows unheldAfter ⊢
  have unstopped := unstopped_of_suffixWithoutDot refused
  rw [load_of_unstopped unstopped] at refused grows unheldAfter ⊢
  have undotted := (check_eq_error_iff.mp refused).2
  cases suffix : (loader.load session.environment session.file).1.get? suffixName with
  | none => simp [ofEnvironment,suffix] at undotted
  | some value =>
    refine ⟨grows.gains _ value unset suffix,value,unheldAfter,suffix,?_⟩
    simpa [ofEnvironment,suffix] using undotted

theorem get_of_suffix (copies : loader.Copies reader) {rest : Text} (unheld : session.held = none)
    (unset : session.environment.get? suffixName = none)
    (given : reader.value? session.environment session.file suffixName = some ('.' :: rest))
    (unstopped : (loader.load session.environment session.file).2 = none) :
    ∃ settings, (session.get loader).2 = .ok settings ∧ settings.suffix = '.' :: rest := by
  have suffix := copies.get?_load given unset unstopped
  have settled : (ofEnvironment (loader.load session.environment session.file).1).suffix =
      '.' :: rest := by
    simp [ofEnvironment,suffix]
  refine ⟨_,?_,settled⟩
  rw [get_of_unheld unheld,load_of_unstopped unstopped]
  simp [check,settled]

/-- What a session is like after the refusal of a suffix that its environment did not have. -/
structure Refused (loader : Loader) (reader : Reader) (before session : Session) : Prop where
  grows : Grows before.environment session.environment
    (reader.Assigns before.environment before.file)
  gained : reader.Assigns before.environment before.file "LINT_FILE_SUFFIX".toList ∧
    ∃ value, session.environment.get? "LINT_FILE_SUFFIX".toList = some value ∧
      value.head? ≠ some '.'
  /-- While it is left alone a call fails, whatever other steps there are; and as this one did, if
  nothing stops the file by then. -/
  lasting : ∀ steps : List Step, (∀ step ∈ steps, step.Spares "LINT_FILE_SUFFIX".toList) →
    let later := (session.run loader steps).1
    ∃ error, (later.get loader).2 = .error error ∧
      ((loader.load later.environment later.file).2 = none → error = .suffixWithoutDot)
  /-- Once it is removed, a file that gives a suffix with its dot settles it. -/
  repaired : ∀ (contents : Bytes) (rest : Text),
    let later :=
      (session.run loader [.unsetVariable "LINT_FILE_SUFFIX".toList,.writeFile contents]).1
    reader.value? later.environment (some contents) "LINT_FILE_SUFFIX".toList =
      some ('.' :: rest) →
    (loader.load later.environment (some contents)).2 = none →
    ∃ settings, (later.get loader).2 = .ok settings ∧ settings.suffix = '.' :: rest

/-- A refused suffix stays in the environment. -/
theorem refused_get (copies : loader.Copies reader) (session : Session)
    (unset : session.environment.get? "LINT_FILE_SUFFIX".toList = none)
    (refused : (session.get loader).2 = .error .suffixWithoutDot) :
    session.Refused loader reader (session.get loader).1 := by
  obtain ⟨assigned,value,dotless⟩ := dotless_get copies unset refused
  refine
    { grows := grows_get copies session
      gained := ⟨assigned,value,dotless.suffix,dotless.dotless⟩
      lasting := fun steps spare => (dotless.run copies spare).get_eq_error copies
      repaired := ?_ }
  intro contents rest later given unstopped
  have removed : later.environment.get? suffixName = none := by
    change ((session.get loader).1.environment.unset suffixName).get? suffixName = none
    rw [get?_unset,if_pos rfl]
  exact get_of_suffix copies dotless.unheld removed given unstopped

def suffixOnly : Reader := fun _ file =>
  match (file.map Utf8.decode).bind ("LINT_FILE_SUFFIX=".toList.isPrefixOf? ·) with
  | some value => .ok [(suffixName,value.takeWhile (· ≠ '\n'))]
  | none => .ok []

theorem refused_get_sql :
    let loader := Loader.copying suffixOnly
    let session := (start.run loader [.writeFile (Utf8.encode "LINT_FILE_SUFFIX=sql\n".toList)]).1
    let dotted := Utf8.encode "LINT_FILE_SUFFIX=.sql\n".toList
    loader.Copies suffixOnly ∧ session.environment.get? "LINT_FILE_SUFFIX".toList = none ∧
      (session.get loader).2 = .error .suffixWithoutDot ∧
      session.Refused loader suffixOnly (session.get loader).1 ∧
      ∃ settings, (((session.get loader).1.run loader [.unsetVariable "LINT_FILE_SUFFIX".toList,
        .writeFile dotted]).1.get loader).2 = .ok settings ∧ settings.suffix = ".sql".toList := by
  intro loader session dotted
  have copies := Loader.copying_copies suffixOnly
  have unset : session.environment.get? "LINT_FILE_SUFFIX".toList = none := by decide +kernel
  have refused : (session.get loader).2 = .error .suffixWithoutDot := by decide +kernel
  have after := refused_get copies session unset refused
  refine ⟨copies,unset,refused,after,?_⟩
  exact after.repaired dotted "sql".toList (by decide +kernel) (by decide +kernel)

/-- A file with the dot in its place is not asked: the suffix of the file before it is in the
environment. -/
theorem run_refused :
    let loader := Loader.copying suffixOnly
    let session := (start.run loader [.writeFile (Utf8.encode "LINT_FILE_SUFFIX=sql\n".toList)]).1
    let dotted := Utf8.encode "LINT_FILE_SUFFIX=.sql\n".toList
    session.environment.get? "LINT_FILE_SUFFIX".toList = none ∧
      (session.get loader).2 = .error .suffixWithoutDot ∧
      (session.get loader).1.environment.get? "LINT_FILE_SUFFIX".toList = some "sql".toList ∧
      ((session.get loader).1.run loader [.writeFile dotted,.get]).2 =
        [.error .suffixWithoutDot] := by
  decide +kernel

end Session
end SchemaLint.Settings
