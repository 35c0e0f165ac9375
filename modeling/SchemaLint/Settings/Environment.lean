import SchemaLint.Text.Blank

/-! Environment variables. A variable is set, perhaps to the empty text, or it is not there. Names and
values are texts, so the bytes behind them are taken to be UTF-8: others would be told as lone
surrogates, which no text holds.
-/
namespace SchemaLint

structure Environment where
  bindings : List (Text × Text)

namespace Environment

def empty : Environment := ⟨[]⟩

def get? (environment : Environment) (name : Text) : Option Text :=
  environment.bindings.lookup name

def isSet (environment : Environment) (name : Text) : Bool :=
  (environment.get? name).isSome

def unset (environment : Environment) (name : Text) : Environment :=
  ⟨environment.bindings.filter (·.1 ≠ name)⟩

def set (environment : Environment) (name value : Text) : Environment :=
  ⟨(name,value) :: (environment.unset name).bindings⟩

end Environment
end SchemaLint
