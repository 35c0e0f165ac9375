import SchemaLint.Settings

/-! A process that uses settings: its environment, its assignment file and the settings that it holds
on to. Settings once had are given again until they are forgotten; a refusal is not held on to.
-/
namespace SchemaLint.Settings

structure Session where
  environment : Environment
  file : Option Bytes
  held : Option Settings

namespace Session

def start : Session := ⟨Environment.empty,none,none⟩

inductive Step where
  | setVariable (name value : Text)
  | unsetVariable (name : Text)
  | writeFile (contents : Bytes)
  | removeFile
  | forget
  | get

variable (loader : Loader)

def get (session : Session) : Session × Except Error Settings :=
  match session.held with
  | some settings => (session,.ok settings)
  | none =>
    match load loader session.environment session.file with
    | (environment,.ok settings) =>
      ({ session with environment := environment, held := some settings },.ok settings)
    | (environment,.error error) => ({ session with environment := environment },.error error)

def step (session : Session) : Step → Session × Option (Except Error Settings)
  | .setVariable name value =>
    ({ session with environment := session.environment.set name value },none)
  | .unsetVariable name => ({ session with environment := session.environment.unset name },none)
  | .writeFile contents => ({ session with file := some contents },none)
  | .removeFile => ({ session with file := none },none)
  | .forget => ({ session with held := none },none)
  | .get => let (session,answer) := session.get loader; (session,some answer)

def run (session : Session) : List Step → Session × List (Except Error Settings)
  | [] => (session,[])
  | s :: rest =>
    let (next,answer) := session.step loader s
    let (last,answers) := run next rest
    (last,answer.toList ++ answers)

end Session
end SchemaLint.Settings
