import Std.Data.HashSet
import SchemaLint.Comment
import SchemaLint.Diagnostic

/-! Scanning one text rule by rule. What is searched is the text without its comments; positions and
snippets come from the text itself. Each pair of code and offset is reported once: it is noted before
it is reported, so a place that is refused is not tried again.
-/
namespace SchemaLint

structure ScanContext where
  length : Nat
  lines : List Text.Line
  sanitized : Text
  diagnostics : Array Diagnostic
  seen : Std.HashSet (Code × Int)

namespace ScanContext

def ofTexts (text sanitized : Text) : ScanContext where
  length := text.length
  lines := Text.lines text
  sanitized := sanitized
  diagnostics := #[]
  seen := ∅

def ofText (text : Text) : ScanContext :=
  ofTexts text (Comment.neutralize text)

/-- Reports a rule at an offset, unless that was tried before. -/
def add (context : ScanContext) (rule : Rule) (offset : Int) : ScanContext × Checked Unit :=
  if context.seen.contains (rule.code,offset) then (context,.ok ())
  else
    let noted := { context with seen := context.seen.insert (rule.code,offset) }
    match Diagnostic.ofPosition rule (Position.within noted.length noted.lines offset) with
    | .ok diagnostic =>
      ({ noted with diagnostics := noted.diagnostics.push diagnostic },.ok ())
    | .error errors => (noted,.error errors)

def addAll (context : ScanContext) (rule : Rule) : List Nat → ScanContext × Checked Unit
  | [] => (context,.ok ())
  | offset :: rest =>
    match context.add rule offset with
    | (next,.ok ()) => next.addAll rule rest
    | (next,.error errors) => (next,.error errors)

def sweep (context : ScanContext) (rule : Rule) : ScanContext × Checked Unit :=
  context.addAll rule (rule.offsets context.sanitized)

def scan (context : ScanContext) (rule : Rule) : ScanContext :=
  (context.sweep rule).1

def sweepAll (context : ScanContext) : List Rule → ScanContext × Checked Unit
  | [] => (context,.ok ())
  | rule :: rest =>
    match context.sweep rule with
    | (next,.ok ()) => next.sweepAll rest
    | (next,.error errors) => (next,.error errors)

inductive Step where
  | add (rule : Rule) (offset : Int)
  | scan (rule : Rule)

def step (context : ScanContext) : Step → ScanContext × Checked Unit
  | .add rule offset => context.add rule offset
  | .scan rule => context.sweep rule

def seenSorted (context : ScanContext) : List (Code × Int) :=
  context.seen.toList.mergeSort fun a b =>
    a.1.name < b.1.name || (a.1 = b.1 && a.2 ≤ b.2)

end ScanContext
end SchemaLint
