import SchemaLint.Rule.Pattern

/-! The rules: what a declarative schema file must not contain, and what is said about it.
-/
namespace SchemaLint

inductive Code where
  | createOrReplace
  | dropStatement
  | transactionControl
  | conditionalDefinition
  | alterDrop
  deriving DecidableEq, Repr, Hashable

namespace Code

def all : List Code :=
  [createOrReplace,dropStatement,transactionControl,conditionalDefinition,alterDrop]

def name : Code → Text
  | createOrReplace => "CREATE_OR_REPLACE".toList
  | dropStatement => "DROP_STATEMENT".toList
  | transactionControl => "TRANSACTION_CONTROL".toList
  | conditionalDefinition => "CONDITIONAL_DEFINITION".toList
  | alterDrop => "ALTER_DROP".toList

def ofName? (text : Text) : Option Code :=
  all.find? (·.name = text)

end Code

structure Rule where
  code : Code
  message : Text
  pattern : Pattern
  deriving Repr

namespace Rule

def setVersion : Text :=
  "lp-sql-1.0".toList

private def phrase (words : List String) : Phrase :=
  words.map String.toList

def createOrReplace : Rule where
  code := .createOrReplace
  message := "Declarative .lp.sql files must not use CREATE OR REPLACE statements. Remove OR REPLACE or split into separate migrations.".toList
  pattern := .anyOf [phrase ["CREATE","OR","REPLACE"]]

def droppedObjects : List String :=
  ["TABLE","SCHEMA","VIEW","INDEX","SEQUENCE","FUNCTION","TRIGGER"]

def dropStatement : Rule where
  code := .dropStatement
  message := "Declarative .lp.sql files must not include DROP statements. Use migrations to drop schema objects.".toList
  pattern := .anyOf (droppedObjects.map fun object => phrase ["DROP",object])

def transactionControl : Rule where
  code := .transactionControl
  message := "Declarative .lp.sql files must not include transaction control statements such as BEGIN, COMMIT, or ROLLBACK.".toList
  pattern := .anyOf [phrase ["BEGIN"],phrase ["COMMIT"],phrase ["ROLLBACK"]]

def conditionalDefinition : Rule where
  code := .conditionalDefinition
  message := "Declarative .lp.sql files must not use conditional clauses like IF EXISTS or IF NOT EXISTS.".toList
  pattern := .anyOf [phrase ["IF","NOT","EXISTS"],phrase ["IF","EXISTS"]]

/-- May cross statements: it reaches the first column drop behind any altered table. -/
def alterDrop : Rule where
  code := .alterDrop
  message := "Declarative .lp.sql files must not drop columns via ALTER TABLE ... DROP COLUMN.".toList
  pattern := .span (phrase ["ALTER","TABLE"]) (phrase ["DROP","COLUMN"])

def all : List Rule :=
  [createOrReplace,dropStatement,transactionControl,conditionalDefinition,alterDrop]

def offsets (rule : Rule) (text : Text) : List Nat :=
  (rule.pattern.spansInReach text).map Span.start

end Rule
end SchemaLint
