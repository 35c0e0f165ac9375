import SchemaLint.Collection
import SchemaLint.Command.Help
import SchemaLint.Command.Options
import SchemaLint.Json.Printer
import SchemaLint.Lint
import SchemaLint.Log
import SchemaLint.Report
import SchemaLint.Settings

/-! The command: it lints the files that its arguments lead to, tells what it found, and ends with a
status that says whether anything was. Nothing is linted when a path is missing or no file was found.
-/
namespace SchemaLint.Command

structure Outcome where
  status : Nat
  output : Text
  complaints : Text
  log : List Text
  deriving DecidableEq, Repr

inductive Fault where
  | settings (error : Settings.Error)
  | levelUnknown (name : Text)
  | collection (error : Collection.Error)
  | help (error : Template.Error)
  deriving DecidableEq, Repr

def Fault.message : Fault → Text
  | settings error => error.message
  | levelUnknown name => "Unknown level: ".toList ++ Text.quoted name
  | collection error => error.message
  | help error => error.message

structure Finding where
  path : Path
  diagnostics : List Diagnostic
  deriving DecidableEq, Repr

/-- What is found in the files of a tree; files without findings are left out. -/
def findings (tree : FileTree) (files : List Reached) : List Finding :=
  (files.map fun reached =>
    ⟨reached.path,lintFile ((tree.contents? reached.location).getD [])⟩).filter
      fun finding => !finding.diagnostics.isEmpty

def textReport (findings : List Finding) : Text :=
  findings.flatMap fun finding =>
    finding.diagnostics.flatMap fun diagnostic =>
      diagnostic.format (some finding.path.print) ++ ['\n']

def Finding.toJson (finding : Finding) : Json :=
  .object
    [("path".toList,.text finding.path.print),
      ("diagnostics".toList,.array (finding.diagnostics.map Diagnostic.toJson))]

def jsonReport (findings : List Finding) : Text :=
  Json.print (.indented 2) (.array (findings.map Finding.toJson)) ++ ['\n']

def report : Format → List Finding → Text
  | .text => textReport
  | .json => jsonReport

def summary (files : List Reached) (findings : List Finding) (violations : Nat) : Text :=
  "INFO lpsql_lint.check: checked ".toList ++ Decimal.ofNat files.length ++
    " file(s) with ruleset ".toList ++ Rule.setVersion ++ ": ".toList ++
    Decimal.ofNat violations ++ " violation(s) in ".toList ++
    Decimal.ofNat findings.length ++ " file(s)".toList

def lintCollected (tree : FileTree) (level : Log.Level) (options : Options)
    (collection : Collection) : Outcome :=
  match collection.missing, collection.files with
  | [], [] =>
    { status := 2, output := []
      complaints := "No ".toList ++ options.suffix ++ " files found.\n".toList, log := [] }
  | [], files =>
    let findings := findings tree files
    let decision := Decision.ofDiagnostics (findings.flatMap Finding.diagnostics)
    { status := if decision.passed then 0 else 1
      output := report options.format findings
      complaints := []
      log := if level.showsInfo then [summary files findings decision.violations] else [] }
  | missing, _ =>
    { status := 2, output := []
      complaints := missing.flatMap fun written =>
        "No such file or directory: ".toList ++ written ++ ['\n']
      log := [] }

def runWith (settings : Settings) (tree : FileTree) (here : Location) (arguments : List Text) :
    Except Fault Outcome :=
  match Log.Level.ofName? settings.logLevel with
  | none => .error (.levelUnknown settings.logLevel)
  | some level =>
    match Request.parse settings.suffix arguments with
    | .error error =>
      .ok { status := 2, output := [], complaints := error.complaint, log := [] }
    | .ok .help =>
      match Help.text settings.suffix with
      | .error error => .error (.help error)
      | .ok text => .ok { status := 0, output := text, complaints := [], log := [] }
    | .ok (.lint options) =>
      match Collection.ofPaths tree here options.suffix options.paths with
      | .error error => .error (.collection error)
      | .ok collection => .ok (lintCollected tree level options collection)

def settingsFileName : Text := ".env".toList

def settingsFile? (tree : FileTree) (here : Location) : Option Bytes :=
  (tree.follow here (Path.parse settingsFileName)).toOption.bind tree.contents?

/-- A run of the command: the warnings told before all else, and what it did or why it broke off. -/
structure Run where
  warnings : List Text
  result : Except Fault Outcome

def run (loader : Settings.Loader) (environment : Environment) (tree : FileTree) (here : Location)
    (arguments : List Text) : Run :=
  let file := settingsFile? tree here
  { warnings := loader.warnings environment file
    result :=
      match (Settings.load loader environment file).2 with
      | .error error => .error (.settings error)
      | .ok settings => runWith settings tree here arguments }

end SchemaLint.Command
