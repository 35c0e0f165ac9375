import SchemaLint.Command.Argument

/-! What a command line asks for. Its paths stand together; options may stand before and behind them,
and of an option that is given twice the last value counts.
-/
namespace SchemaLint.Command

inductive Format where
  | text
  | json
  deriving DecidableEq, Repr

def Format.parse? (value : Text) : Option Format :=
  if value = "text".toList then some text
  else if value = "json".toList then some json
  else none

structure Options where
  paths : List Text
  suffix : Text
  format : Format
  deriving DecidableEq, Repr

inductive Request where
  | help
  | lint (options : Options)
  deriving DecidableEq, Repr

/-- What was read of a command line: the paths once they were met, and what could not be placed. -/
structure Progress where
  paths : Option (List Text)
  suffix : Text
  format : Format
  unplaced : List Text
  deriving DecidableEq, Repr

namespace Progress

def plain? : Argument → Option Text
  | .plain written => some written
  | _ => none

/-- Places a run of plain arguments: the first such run is the paths. -/
def place (progress : Progress) (run : List Argument) : Progress :=
  match progress.paths, run.filterMap plain? with
  | none, path :: paths => { progress with paths := some (path :: paths) }
  | _, _ => { progress with unplaced := progress.unplaced ++ run.map Argument.written }

def set (progress : Progress) (setting : Setting) (value : Text) : Except UsageError Progress :=
  match setting with
  | .suffix => .ok { progress with suffix := value }
  | .format =>
    match Format.parse? value with
    | some format => .ok { progress with format := format }
    | none => .error (.formatUnknown value)

def clear (progress : Progress) : Setting → Progress
  | .suffix => { progress with suffix := "[]".toList }
  | .format => { progress with format := .text }

/-- Sets an option to what stands behind its equals sign, where the separator is no value. -/
def assign (progress : Progress) (setting : Setting) (value : Text) : Except UsageError Progress :=
  if value = separatorName then .ok (progress.clear setting) else progress.set setting value

/-- Reads arguments behind a run of plain ones, kept in reverse. Help ends the reading. -/
def read (progress : Progress) (run : List Argument) :
    List Argument → Except UsageError (Option Progress)
  | [] => .ok (some (progress.place run.reverse))
  | .help none :: _ => .ok none
  | .help (some value) :: _ => .error (.valueIgnored value)
  | .setting setting (some value) :: rest => do
    let next ← (progress.place run.reverse).assign setting value
    next.read [] rest
  | .setting setting none :: .plain value :: rest => do
    let next ← (progress.place run.reverse).set setting value
    next.read [] rest
  | .setting setting none :: _ => .error (.valueMissing setting)
  | .unknown written :: rest =>
    let placed := progress.place run.reverse
    { placed with unplaced := placed.unplaced ++ [written] }.read [] rest
  | argument :: rest => progress.read (argument :: run) rest

def finish (progress : Progress) : Except UsageError Request :=
  match progress.paths, progress.unplaced with
  | none, _ => .error .pathsMissing
  | some paths, [] => .ok (.lint ⟨paths,progress.suffix,progress.format⟩)
  | some _, unplaced => .error (.argumentsUnknown unplaced)

end Progress

def Request.parse (suffix : Text) (arguments : List Text) : Except UsageError Request := do
  let classified ← Argument.classifyAll arguments
  match ← Progress.read ⟨none,suffix,.text,[]⟩ [] classified with
  | none => .ok .help
  | some progress => progress.finish

end SchemaLint.Command
