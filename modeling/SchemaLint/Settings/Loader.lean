import SchemaLint.Exception
import SchemaLint.Settings.Environment
import SchemaLint.Text.Utf8

/-! Loaders of the assignment file. How the file is read and what becomes of it is theirs to say.
-/
namespace SchemaLint.Settings

/-- What loading a file makes of an environment, the exception that it may end with, and what it warns
of. -/
structure Loader where
  load : Environment → Option Bytes → Environment × Option Exception
  warnings : Environment → Option Bytes → List Text

end SchemaLint.Settings
