import SchemaLint.Failure
import SchemaLint.Text.Lowercase
import SchemaLint.Text.Utf8

/-! What is submitted to be linted: a text or an uploaded file. Both are held to the same size in
bytes; a file must have the suffix that the settings ask for.
-/
namespace SchemaLint.Service

structure Submission where
  text : Text
  filename : Option Text
  deriving DecidableEq, Repr

/-- A file in a form. Its name may be empty. -/
structure Upload where
  filename : Text
  contents : Bytes
  deriving DecidableEq, Repr

def tooLarge (settings : Settings) : Refusal where
  status := 413
  detail := "SQL is too large. Limit: ".toList ++ Decimal.ofInt settings.maxUploadKb ++
    " KB.".toList

def wrongSuffix (settings : Settings) : Refusal where
  status := 400
  detail := "Please upload a ".toList ++ settings.suffix ++ " file.".toList

def fits (settings : Settings) (size : Nat) : Bool :=
  (size : Int) ≤ settings.maxSqlBytes

def acceptText (settings : Settings) (submission : Submission) : Except Refusal Submission :=
  if fits settings (Utf8.encode submission.text).length then .ok submission
  else .error (tooLarge settings)

def uploadName (settings : Settings) (filename : Text) : Text :=
  if filename.isEmpty then "upload".toList ++ settings.suffix else filename

/-- Whether the name of a file, in lower case, ends in the suffix as it is set. -/
def hasSuffix (settings : Settings) (filename : Text) : Bool :=
  settings.suffix.isSuffixOf (Text.lower filename)

/-- Accepts an uploaded file whose name and size are right. The name is looked at first. -/
def acceptUpload (settings : Settings) (upload : Upload) : Except Refusal Submission :=
  let filename := uploadName settings upload.filename
  if !hasSuffix settings filename then .error (wrongSuffix settings)
  else if !fits settings upload.contents.length then .error (tooLarge settings)
  else .ok ⟨Utf8.decode upload.contents,some filename⟩

end SchemaLint.Service
