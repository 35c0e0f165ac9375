import SchemaLint.Numeral
import SchemaLint.Settings.Loader

/-! Settings: what the environment says, after the assignment file has been loaded into it, and
defaults for the rest.
-/
namespace SchemaLint

structure Settings where
  appEnv : Text
  logLevel : Text
  maxUploadKb : Int
  suffix : Text
  deriving DecidableEq, Repr

namespace Settings

inductive Error where
  | suffixWithoutDot
  | notLoaded (raised : Exception)
  deriving DecidableEq, Repr

def maxSqlBytes (settings : Settings) : Int :=
  settings.maxUploadKb * 1024

def defaultMaxUploadKb : Int := 512

def appEnvName : Text := "APP_ENV".toList
def logLevelName : Text := "LOG_LEVEL".toList
def maxUploadKbName : Text := "MAX_UPLOAD_KB".toList
def suffixName : Text := "LINT_FILE_SUFFIX".toList

def names : List Text :=
  [appEnvName,logLevelName,maxUploadKbName,suffixName]

/-- The settings of an environment. A size that is no integer counts as none. -/
def ofEnvironment (environment : Environment) : Settings where
  appEnv := (environment.get? appEnvName).getD "dev".toList
  logLevel := (environment.get? logLevelName).getD "INFO".toList
  maxUploadKb := ((environment.get? maxUploadKbName).bind Numeral.read?).getD defaultMaxUploadKb
  suffix := (environment.get? suffixName).getD ".lp.sql".toList

/-- Files are recognised by the end of their names, from a dot on. -/
def check (settings : Settings) : Except Error Settings :=
  match settings.suffix with
  | '.' :: _ => .ok settings
  | _ => .error .suffixWithoutDot

/-- Loads settings; what the assignment file provides stays in the environment, also when the
settings are refused. -/
def load (loader : Loader) (environment : Environment) (file : Option Bytes) :
    Environment × Except Error Settings :=
  match loader.load environment file with
  | (environment,some raised) => (environment,.error (.notLoaded raised))
  | (environment,none) => (environment,check (ofEnvironment environment))

def Error.message : Error → Text
  | suffixWithoutDot => "LINT_FILE_SUFFIX must start with a dot, e.g. \".lp.sql\"".toList
  | notLoaded raised => raised.message

end Settings
end SchemaLint
