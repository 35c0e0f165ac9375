import SchemaLint.Text.Blank

/-! The level from which on records are logged.
-/
namespace SchemaLint.Log

inductive Level where
  | all
  | debug
  | info
  | warning
  | error
  | critical
  deriving DecidableEq, Repr

def Level.names : List (Text × Level) :=
  [("NOTSET".toList,all),("DEBUG".toList,debug),("INFO".toList,info),
    ("WARN".toList,warning),("WARNING".toList,warning),("ERROR".toList,error),
    ("FATAL".toList,critical),("CRITICAL".toList,critical)]

def Level.ofName? (name : Text) : Option Level :=
  names.lookup name

def Level.showsInfo : Level → Bool
  | all => true
  | debug => true
  | info => true
  | _ => false

end SchemaLint.Log
